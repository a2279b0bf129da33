import Mathlib.Data.Nat.Digits.Defs
import Phrasebook.Log.Registry
import Phrasebook.Proofs.Log.Formatting

/-!
# The lines of records

What the console and the log file show of a record. A layout is filled piece by piece: text stands
for itself, and a directive for the field that it names. The layouts of the console and of the log
file name fields that every record has, so their lines never fail.
-/

namespace Phrasebook.Log

/-! ## Filling a layout from the left -/

section Layouts

variable {size : Nat} {name text spec rest : Text} {r : Record} {whole : Option Value}

/-- A directive for a field, where `spec` is what stands behind the name. -/
def directiveText (name spec : Text) : Text :=
  '%' :: '(' :: (name ++ ')' :: spec)

theorem takeName_of_plain (h : '(' ∉ name ∧ ')' ∉ name) (rest : Text) :
    takeName 0 (name ++ ')' :: rest) = some (name, rest) := by
  induction name with
  | nil => rfl
  | cons c name ih =>
      simp only [List.mem_cons, not_or] at h
      have hopen : c ≠ '(' := Ne.symm h.1.1
      have hclose : c ≠ ')' := Ne.symm h.2.1
      rw [List.cons_append, takeName.eq_def]
      simp [hopen, hclose, ih ⟨h.1.2, h.2.2⟩]

theorem piecesFrom_directiveText {d : Directive} (hname : '(' ∉ name ∧ ')' ∉ name)
    (hspec : takeDirective size (some name) (spec ++ rest) = (d, rest)) :
    piecesFrom size (directiveText name spec ++ rest) = .directive d :: piecesFrom size rest := by
  have htext : directiveText name spec ++ rest = '%' :: '(' :: (name ++ ')' :: (spec ++ rest)) := by
    simp [directiveText]
  rw [htext, piecesFrom]
  simp only [ne_eq, not_true_eq_false, if_false]
  split
  · rename_i hnone
    rw [takeName_of_plain hname] at hnone
    cases hnone
  · rename_i found tail hsome
    rw [takeName_of_plain hname] at hsome
    cases hsome
    rw [hspec]

theorem piecesFrom_cons_of_ne {c : Char} (h : c ≠ '%') (rest : Text) :
    piecesFrom size (c :: rest) = .text [c] :: piecesFrom size rest := by
  rw [piecesFrom.eq_def]
  simp only [ne_eq, h, not_false_eq_true, if_true]

/-- Text without a percent sign stands for itself. -/
theorem fill_text (htext : '%' ∉ text) (rest : Text) :
    fillPieces r whole (piecesFrom size (text ++ rest)) =
      (fillPieces r whole (piecesFrom size rest)).map (text ++ ·) := by
  induction text with
  | nil =>
      rw [List.nil_append]
      cases fillPieces r whole (piecesFrom size rest) <;> rfl
  | cons c text ih =>
      have hc : c ≠ '%' := fun heq => htext (heq ▸ List.mem_cons_self)
      rw [List.cons_append, piecesFrom_cons_of_ne hc, fillPieces,
        ih fun h => htext (List.mem_cons_of_mem _ h)]
      cases fillPieces r whole (piecesFrom size rest) <;> rfl

/-- A directive stands for the field that it names. -/
theorem fill_directive {d : Directive} {value : Value} {shown : Text}
    (hname : '(' ∉ name ∧ ')' ∉ name)
    (hspec : takeDirective size (some name) (spec ++ rest) = (d, rest))
    (hfield : d.field = some name) (hvalue : r.field? name = some value)
    (hshown : d.fill (some value) = .ok shown) :
    fillPieces r whole (piecesFrom size (directiveText name spec ++ rest)) =
      (fillPieces r none (piecesFrom size rest)).map (shown ++ ·) := by
  rw [piecesFrom_directiveText hname hspec, fillPieces]
  simp only [hfield, hvalue, hshown, pure, Except.pure, bind, Except.bind]
  cases fillPieces r none (piecesFrom size rest) <;> rfl

end Layouts

/-! ## Values without a precision -/

/-- A text behind which blanks fill a width. -/
def padRight (width : Nat) (s : Text) : Text :=
  s ++ Text.fill (width - s.length) ' '

theorem fill_plain (name : Text) (position : Nat) (value : Text) :
    Directive.fill ⟨some name, [], .unset, .unset, some 's', position⟩ (some (.text value)) =
      .ok value := by
  simp [Directive.fill, Directive.slot, Size.use, Size.count?, Slot.convert, Slot.written,
    Value.hasText, Slot.cut, Slot.textual, Slot.layOut, Directive.maxWidth, Text.fill, pure,
    Except.pure, bind, Except.bind]

theorem fill_padded (name : Text) (position : Nat) (value : Text) :
    Directive.fill ⟨some name, ['-'], .fixed 8, .unset, some 's', position⟩ (some (.text value)) =
      .ok (padRight 8 value) := by
  simp [Directive.fill, Directive.slot, Size.use, Size.count?, SizeKind.limit, Slot.convert,
    Slot.written, Value.hasText, Slot.cut, Slot.textual, Slot.layOut, Directive.maxWidth, padRight,
    pure, Except.pure, bind, Except.bind]

namespace Registry

/-- The name of a level on the console: in its colour if that is a terminal. -/
def shownLevel (terminal : Bool) (level : Level) : Text :=
  match (consoleFormatter terminal).colour? level with
  | none => levelName level
  | some colour => tinted colour (levelName level)

/-- The line of a message on the console. -/
def consoleLine (terminal : Bool) (e : Entry) : Text :=
  e.instant.moment.text "%H:%M:%S".toList ++ (' ' :: padRight 8 (shownLevel terminal e.level) ++
    (' ' :: e.name ++ (" - ".toList ++ e.message)))

theorem layout_consoleFormatter (terminal : Bool) : (consoleFormatter terminal).layout =
    directiveText timeField ['s'] ++ ([' '] ++ (directiveText levelField ['-', '8', 's'] ++
      ([' '] ++ (directiveText "name".toList ['s'] ++ (" - ".toList ++
        (directiveText "message".toList ['s'] ++ [])))))) := rfl

variable {r : Record} {time : Text}

theorem lineText_consoleFormatter (terminal : Bool) (hmessage : r.showsMessage = true)
    (htime : r.shownTime = some time) : lineText (consoleFormatter terminal).layout r =
      .ok (time ++ (' ' :: padRight 8 r.levelName ++
        (' ' :: r.name ++ (" - ".toList ++ r.message)))) := by
  obtain ⟨e, levelName, showsMessage, shownTime⟩ := r
  cases hmessage
  cases htime
  rw [lineText, pieces]
  generalize (consoleFormatter terminal).layout.length = size
  rw [layout_consoleFormatter,
    fill_directive (by decide) rfl rfl rfl (fill_plain _ _ _), fill_text (by decide),
    fill_directive (by decide) rfl rfl rfl (fill_padded _ _ _), fill_text (by decide),
    fill_directive (by decide) rfl rfl rfl (fill_plain _ _ _), fill_text (by decide),
    fill_directive (by decide) rfl rfl rfl (fill_plain _ _ _)]
  rw [piecesFrom, fillPieces]
  simp [Except.map]

/-- The console tints the name of a level in its line alone. -/
theorem fst_apply_consoleFormatter (terminal : Bool) (h : r.levelName = levelName r.level) :
    ((consoleFormatter terminal).apply r).1 = .ok (consoleLine terminal r.toEntry) := by
  have hshown : (consoleFormatter terminal).shownTime r.instant.moment =
      .ok (some (r.instant.moment.text "%H:%M:%S".toList)) := rfl
  have hlevel : ((consoleFormatter terminal).dress r).levelName = shownLevel terminal r.level := by
    unfold Formatter.dress shownLevel
    cases (consoleFormatter terminal).colour? r.level with
    | none => exact h
    | some colour => exact congrArg (tinted colour) h
  rw [Formatter.fst_apply_of_shownTime hshown, lineText_consoleFormatter terminal rfl rfl,
    consoleLine, ← hlevel, ← Formatter.toEntry_dress (f := consoleFormatter terminal) (r := r)]
  rfl

end Registry

end Phrasebook.Log
