import Phrasebook.Proofs.Log.Alike
import Phrasebook.Proofs.Log.EscapeFreeLines
import Phrasebook.Proofs.Log.Lines
import Phrasebook.Proofs.Log.QuotedTints

/-!
# Lines with a tinted level name

A formatter that tints lays out the record in which the name of the level stands in its colour
(`Record.dressed`). Both records are refused by the same directives, with the same errors. Lines
that are laid out differ by the escape sequences alone exactly if every directive keeps the name of
the level (`untinted_line_iff`). A directive of its own for the name is weighed; one for the record
as a whole can only be the first of all, so where it does not cut the name off the lines part there.
The layout of the console does not keep the name: its column for levels is eight characters wide,
and of the names with a colour only one is as long.
-/

namespace Phrasebook.Log

/-! ## Records with and without a colour -/

/-- A record under the plain name of its level, which has a colour. -/
structure IsColoured (r : Record) (colour : Text) : Prop where
  mem : (r.level, colour) ∈ colours
  levelName : r.levelName = Log.levelName r.level

/-- What a record as a whole shows before the name of its level. -/
def Record.beforeLevelName (r : Record) : Text :=
  '\x7b' :: ((Value.entryLiterals r.fieldsBefore).flatMap (· ++ ", ".toList) ++
    (Text.quoted levelField ++ ": ".toList))

/-- What a record as a whole shows behind the name of its level. -/
def Record.behindLevelName (r : Record) : Text :=
  (Value.entryLiterals (r.fieldsBehind ++ r.fieldsLeft)).flatMap (", ".toList ++ ·) ++ ['\x7d']

/-- Whether a directive shows the name of a level in a colour as it shows the plain name, but for
the escape sequences. Quoted names, and those that a record shows as a whole, must not be seen at
all. -/
def Directive.KeepsTint (r : Record) (colour : Text) (d : Directive) : Prop :=
  match d.conversion with
  | none => True
  | some conversion =>
    match d.field with
    | none => d.slot.CutsWithin (quotedLead conversion r.beforeLevelName)
    | some field =>
      field = levelField →
        if conversion = 's' then d.slot.KeepsTint colour r.levelName
        else d.slot.CutsWithin [Text.singleQuote]

instance (r : Record) (colour : Text) : (d : Directive) → Decidable (d.KeepsTint r colour)
  | ⟨_, _, _, _, none, _⟩ => isTrue trivial
  | ⟨none, _, _, _, some _, _⟩ => inferInstanceAs (Decidable (Slot.CutsWithin _ _))
  | ⟨some _, _, _, _, some _, _⟩ =>
    inferInstanceAs (Decidable (_ = _ → if _ = 's' then Slot.KeepsTint _ _ _ else _))

/-- The names of the levels with colours are words in capitals, and their numbers are short. -/
theorem colours_bare : ∀ entry ∈ colours,
    IsEvenWord (levelName entry.1) ∧ AreBare entry.2 ∧
      entry.2.length + (levelName entry.1).length ≤ 70 ∧ 1 < (levelName entry.1).length := by
  decide

section Records

variable {r : Record} {colour field p t : Text} {slot : Slot} {conversion : Char}

theorem IsColoured.bare (hr : IsColoured r colour) :
    IsEvenWord r.levelName ∧ AreBare colour ∧ colour.length + r.levelName.length ≤ 70 ∧
      1 < r.levelName.length := by
  rw [hr.levelName]
  exact colours_bare _ hr.mem

theorem IsColoured.alike_levelName (hr : IsColoured r colour) :
    Alike (.text r.levelName) (.text (tinted colour r.levelName)) := by
  obtain ⟨-, -, -, hlength⟩ := hr.bare
  refine .text (Nat.ne_of_gt hlength) ?_
  simp [tinted, escapeSequence]

/-- The name of a level in a directive of its own. -/
theorem IsColoured.showsTint_levelName (hr : IsColoured r colour) (slot : Slot)
    (hp : textOf? conversion (.text r.levelName) = some p)
    (ht : textOf? conversion (.text (tinted colour r.levelName)) = some t) :
    ShowsTint colour
      (if conversion = 's' then slot.KeepsTint colour r.levelName
        else slot.CutsWithin [Text.singleQuote])
      (slot.layOut (slot.cut t)) (slot.layOut (slot.cut p)) := by
  obtain ⟨hword, hcolour, hlength, -⟩ := hr.bare
  have hquoted := showsTint_quoted colour hcolour hword.areBare hlength conversion slot
  unfold textOf? at hp ht
  split at hp <;> cases hp <;> cases ht
  · exact showsTint_name (isColour_of_mem hr.mem) hword slot
  · exact hquoted
  · exact hquoted

theorem entryLiterals_append (a b : List (Text × Value)) :
    Value.entryLiterals (a ++ b) = Value.entryLiterals a ++ Value.entryLiterals b := by
  induction a with
  | nil => rfl
  | cons entry rest ih =>
      rw [List.cons_append, Value.entryLiterals, ih]
      rfl

theorem join_append_cons (separator : Text) (before : List Text) (piece : Text)
    (behind : List Text) : Text.join separator (before ++ piece :: behind) =
      before.flatMap (· ++ separator) ++ (piece ++ behind.flatMap (separator ++ ·)) := by
  induction before with
  | nil =>
      induction behind generalizing piece with
      | nil => simp
      | cons next rest ih =>
          have hrest := ih next
          simp only [List.nil_append, List.flatMap_nil] at hrest ⊢
          rw [Text.join_cons_cons, hrest]
          simp
  | cons first before ih =>
      cases hrest : before ++ piece :: behind with
      | nil => simp at hrest
      | cons next rest =>
          rw [List.cons_append, hrest, Text.join_cons_cons, ← hrest, ih]
          simp

theorem literal_whole (r : Record) : r.whole.literal =
    r.beforeLevelName ++ Text.quoted r.levelName ++ r.behindLevelName := by
  rw [Record.whole, Value.literal, Record.fields, entryLiterals_append, Value.entryLiterals,
    Value.bracketed, join_append_cons]
  simp [Record.beforeLevelName, Record.behindLevelName, Value.literal]

theorem alike_whole (r : Record) (colour : Text) : Alike r.whole (r.dressed colour).whole := by
  have happend (a b : List (Text × Value)) : Value.entriesHaveText (a ++ b) =
      (Value.entriesHaveText a && Value.entriesHaveText b) := by
    induction a with
    | nil => rfl
    | cons entry rest ih =>
        rw [List.cons_append, Value.entriesHaveText, ih, Value.entriesHaveText, Bool.and_assoc]
  refine .mapping ?_
  rw [Value.hasText, Value.hasText, Record.fields, Record.fields, happend, happend]
  rfl

/-- The text of a whole record up to the name of its level, and behind the quote that opens the
name. -/
theorem textOf?_whole {name : Text} (hp : textOf? conversion (Record.whole r) = some p)
    (hname : Text.IsAscii (Text.quoted r.levelName))
    (hquoted : Text.quoted r.levelName = Text.singleQuote :: name) :
    p = quotedLead conversion r.beforeLevelName ++
      (name ++ styled conversion r.behindLevelName) := by
  have hstyled : p = styled conversion r.whole.literal := by
    unfold textOf? at hp
    split at hp <;> cases hp <;> rfl
  rw [hstyled, literal_whole, styled_append, styled_append, styled_of_isAscii hname, hquoted]
  simp [quotedLead]

/-- The name of a level in a directive for the whole record: it is cut off, or the texts part
there. -/
theorem IsColoured.whole (hr : IsColoured r colour) (slot : Slot)
    (hp : textOf? conversion r.whole = some p)
    (ht : textOf? conversion (r.dressed colour).whole = some t) :
    slot.CutsWithin (quotedLead conversion r.beforeLevelName) ∧
        slot.layOut (slot.cut t) = slot.layOut (slot.cut p) ∨
      ¬slot.CutsWithin (quotedLead conversion r.beforeLevelName) ∧
        Parts (slot.layOut (slot.cut t)) (slot.layOut (slot.cut p)) := by
  obtain ⟨hword, hcolour, -, hlength⟩ := hr.bare
  have hname := hword.areBare
  rw [textOf?_whole hp (isAscii_quoted hname) (quoted_of_areBare hname),
    textOf?_whole ht (isAscii_quoted_tinted hcolour hname) (quoted_tinted hcolour hname)]
  have hbefore : (r.dressed colour).beforeLevelName = r.beforeLevelName := rfl
  have hbehind : (r.dressed colour).behindLevelName = r.behindLevelName := rfl
  rw [hbefore, hbehind]
  by_cases hcuts : slot.CutsWithin (quotedLead conversion r.beforeLevelName)
  · obtain ⟨n, hprecision, hle⟩ := hcuts
    refine .inl ⟨⟨n, hprecision, hle⟩, ?_⟩
    rw [Slot.cut, Slot.cut, Option.mem_def.1 hprecision]
    simp only [List.take_append_of_le_length hle]
  · refine .inr ⟨hcuts, ?_⟩
    obtain ⟨first, rest, hfirst⟩ :=
      List.exists_cons_of_length_pos (Nat.lt_trans Nat.one_pos hlength)
    have hbare : IsBare first := hname first (hfirst ▸ List.mem_cons_self)
    have hlead : quotedLead conversion r.beforeLevelName = '\x7b' ::
        (styled conversion r.beforeLevelName.tail ++ [Text.singleQuote]) := by
      rw [quotedLead, Record.beforeLevelName, ← List.singleton_append, styled_append,
        styled_of_isAscii (by decide)]
      rfl
    rw [hlead] at hcuts ⊢
    rw [hfirst]
    refine parts_layOut_cut (by decide) (by decide) (Ne.symm hbare.2.2.1) ?_ hcuts
    simp [markedName]
    omega

theorem field?_dressed_of_ne (h : field ≠ levelField) :
    (r.dressed colour).field? field = r.field? field := by
  simp only [Record.field?, Record.fields, Dict.get?_append, Dict.get?, if_neg h.symm]
  rfl

end Records

/-! ## Filling a layout with and without a colour -/

section Filling

variable {r : Record} {colour s shown plain shown' plain' : Text} {keeps keeps' : Prop}
  {fresh : Bool}

/-- How a part of a line with a colour goes with the same part of the plain line. They can only part
at a record that is shown as a whole, which is not there once a directive has taken it. -/
def GoesWith (fresh : Bool) (colour : Text) (keeps : Prop) (shown plain : Text) : Prop :=
  ShowsTint colour keeps shown plain ∨ fresh = true ∧ ¬keeps ∧ Parts shown plain

theorem GoesWith.congr (h : GoesWith fresh colour keeps shown plain) (hiff : keeps' ↔ keeps) :
    GoesWith fresh colour keeps' shown plain :=
  h.imp (·.congr hiff) fun ⟨hfresh, hkeeps, hparts⟩ => ⟨hfresh, mt hiff.1 hkeeps, hparts⟩

theorem GoesWith.prepend (h : GoesWith fresh colour keeps shown plain) (hs : EscapeFree s) :
    GoesWith fresh colour keeps (s ++ shown) (s ++ plain) := by
  obtain hshows | ⟨hfresh, hkeeps, hparts⟩ := h
  · exact .inl (((ShowsTint.same hs trivial).append hshows).congr (by simp))
  · exact .inr ⟨hfresh, hkeeps, hparts.prepend s⟩

theorem GoesWith.append (h : GoesWith fresh colour keeps shown plain)
    (h' : GoesWith false colour keeps' shown' plain') :
    GoesWith fresh colour (keeps ∧ keeps') (shown ++ shown') (plain ++ plain') := by
  obtain hshows' | ⟨hfalse, -⟩ := h'
  · obtain hshows | ⟨hfresh, hkeeps, hparts⟩ := h
    · exact .inl (hshows.append hshows')
    · exact .inr ⟨hfresh, fun hboth => hkeeps hboth.1, hparts.append shown' plain'⟩
  · cases hfalse

theorem GoesWith.untinted_eq_iff (h : GoesWith fresh colour keeps shown plain)
    (hcolour : IsColour colour) (hplain : EscapeFree plain) :
    untinted colour shown = plain ↔ keeps := by
  obtain hshows | ⟨-, hkeeps, hparts⟩ := h
  · exact hshows.untinted_eq_iff hcolour
  · exact iff_of_false (hparts.untinted_ne hplain) hkeeps

theorem keepsTint_of_ne {d : Directive} {name : Text} (hfield : d.field = some name)
    (hname : name ≠ levelField) : d.KeepsTint r colour := by
  unfold Directive.KeepsTint
  rw [hfield]
  cases d.conversion with
  | none => trivial
  | some conversion => exact fun heq => absurd heq hname

/-- The record as a value, as long as no directive has taken it. -/
def wholeIf (fresh : Bool) (r : Record) : Option Value :=
  if fresh then some r.whole else none

theorem fill_whole_dressed (hr : IsColoured r colour) {d : Directive} (hfield : d.field = none) :
    (∃ p t, d.fill (some r.whole) = .ok p ∧ d.fill (some (r.dressed colour).whole) = .ok t ∧
      (EscapeFree p → GoesWith true colour (d.KeepsTint r colour) t p)) ∨
    ∃ e, d.fill (some r.whole) = .error e ∧ d.fill (some (r.dressed colour).whole) = .error e := by
  obtain ⟨conversion, p, t, hconversion, hp, ht, hfill, hfill'⟩ | ⟨e, hfill, hfill'⟩ :=
    (alike_whole r colour).fill d
  case inr => exact .inr ⟨e, hfill, hfill'⟩
  have hkeeps : d.KeepsTint r colour ↔
      d.slot.CutsWithin (quotedLead conversion r.beforeLevelName) := by
    simp [Directive.KeepsTint, hfield, hconversion]
  refine .inl ⟨_, _, hfill, hfill', fun hfree => ?_⟩
  obtain ⟨hcuts, hsame⟩ | ⟨hcuts, hparts⟩ := hr.whole d.slot hp ht
  · rw [hsame]
    exact .inl (.same hfree (hkeeps.2 hcuts))
  · exact .inr ⟨rfl, mt hkeeps.1 hcuts, hparts⟩

theorem showField_dressed (hr : IsColoured r colour) (fresh : Bool) (d : Directive) :
    (∃ p t, showField r (wholeIf fresh r) d = .ok p ∧
      showField (r.dressed colour) (wholeIf fresh (r.dressed colour)) d = .ok t ∧
      (EscapeFree p → GoesWith fresh colour (d.KeepsTint r colour) t p)) ∨
    ∃ e, showField r (wholeIf fresh r) d = .error e ∧
      showField (r.dressed colour) (wholeIf fresh (r.dressed colour)) d = .error e := by
  unfold showField
  cases hfield : d.field with
  | none =>
      cases fresh with
      | false =>
          cases hfill : d.fill none with
          | error e => exact .inr ⟨e, hfill, hfill⟩
          | ok p =>
              obtain ⟨v, -, -, hnone, -⟩ := fill_eq_ok hfill
              cases hnone
      | true => exact fill_whole_dressed hr hfield
  | some name =>
      obtain rfl | hname := Decidable.em (name = levelField)
      · obtain ⟨conversion, p, t, hconversion, hp, ht, hfill, hfill'⟩ | ⟨e, hfill, hfill'⟩ :=
          hr.alike_levelName.fill d
        · refine .inl ⟨_, _, hfill, hfill', fun _ => .inl ?_⟩
          refine (hr.showsTint_levelName d.slot hp ht).congr ?_
          simp [Directive.KeepsTint, hfield, hconversion]
        · exact .inr ⟨e, hfill, hfill'⟩
      · simp only [field?_dressed_of_ne hname]
        cases r.field? name with
        | none => exact .inr ⟨_, rfl, rfl⟩
        | some value =>
            simp only
            cases d.fill (some value) with
            | error e => exact .inr ⟨e, rfl, rfl⟩
            | ok p =>
                exact .inl ⟨p, p, rfl, rfl,
                  fun hfree => .inl (.same hfree (keepsTint_of_ne hfield hname))⟩

/-- With a colour and without, a layout is filled alike but for the name of the level, or it fails
with the same error. -/
theorem fillPieces_dressed (hr : IsColoured r colour) (fresh : Bool) (ps : List Piece) :
    (∃ p t, fillPieces r (wholeIf fresh r) ps = .ok p ∧
      fillPieces (r.dressed colour) (wholeIf fresh (r.dressed colour)) ps = .ok t ∧
      (EscapeFree p →
        GoesWith fresh colour (∀ d, .directive d ∈ ps → d.KeepsTint r colour) t p)) ∨
    ∃ e, fillPieces r (wholeIf fresh r) ps = .error e ∧
      fillPieces (r.dressed colour) (wholeIf fresh (r.dressed colour)) ps = .error e := by
  -- Only the first directive finds the record as a whole, so the induction is for both cases.
  induction ps generalizing fresh with
  | nil => exact .inl ⟨[], [], rfl, rfl, fun _ => .inl (.same escapeFree_nil (by simp))⟩
  | cons piece rest ih =>
      cases piece with
      | text s =>
          simp only [fillPieces]
          obtain ⟨p, t, hp, ht, hgoes⟩ | ⟨e, hp, ht⟩ := ih fresh
          · refine .inl ⟨s ++ p, s ++ t, by rw [hp]; rfl, by rw [ht]; rfl, fun hfree => ?_⟩
            obtain ⟨hs, hfree⟩ := escapeFree_append.1 hfree
            exact ((hgoes hfree).prepend hs).congr (by simp)
          · exact .inr ⟨e, by rw [hp]; rfl, by rw [ht]; rfl⟩
      | unclosedName => exact .inr ⟨_, rfl, rfl⟩
      | directive d =>
          simp only [fillPieces_directive]
          obtain ⟨p, t, hp, ht, hgoes⟩ | ⟨e, hp, ht⟩ := showField_dressed hr fresh d
          case inr => exact .inr ⟨e, by rw [hp]; rfl, by rw [ht]; rfl⟩
          rw [hp, ht]
          obtain ⟨p', t', hp', ht', hgoes'⟩ | ⟨e, hp', ht'⟩ := ih false
          · refine .inl ⟨p ++ p', t ++ t', congrArg (Except.map (p ++ ·)) hp',
              congrArg (Except.map (t ++ ·)) ht', fun hfree => ?_⟩
            obtain ⟨hfirst, hrest⟩ := escapeFree_append.1 hfree
            exact ((hgoes hfirst).append (hgoes' hrest)).congr (by simp)
          · exact .inr ⟨e, congrArg (Except.map (p ++ ·)) hp', congrArg (Except.map (t ++ ·)) ht'⟩

end Filling

/-! ## Formatters with and without colours -/

section Formatters

variable {r : Record} {colour line : Text} {f : Formatter} {level : Level}

theorem isColoured_of {e : Entry} (h : colours.lookup e.level = some colour) :
    IsColoured (Record.of e) colour :=
  ⟨Dict.mem_of_lookup h, rfl⟩

theorem fst_apply_of_none (h : f.colour? r.level = none) : (f.apply r).1 = (f.line r).1 := by
  rw [Formatter.apply, h]

theorem fst_apply_of_some (h : f.colour? r.level = some colour) :
    (f.apply r).1 = (f.line (r.dressed colour)).1 := by
  rw [Formatter.apply, h]
  rfl

/-- With a colour and without, a formatter writes lines that go together, or it fails with the same
error. -/
theorem line_dressed (hr : IsColoured r colour) (f : Formatter) :
    (∃ p t, (f.line r).1 = .ok p ∧ (f.line (r.dressed colour)).1 = .ok t ∧
      (EscapeFree p →
        GoesWith true colour (∀ d ∈ directives f.layout, d.KeepsTint r colour) t p)) ∨
    ∃ e, (f.line r).1 = .error e ∧ (f.line (r.dressed colour)).1 = .error e := by
  have hleave : f.leave (r.dressed colour) = (f.leave r).dressed colour := rfl
  have htime : f.shownTime (r.dressed colour).instant.moment =
      f.shownTime r.instant.moment := rfl
  have hcoloured : IsColoured (f.leave r) colour := ⟨hr.mem, hr.levelName⟩
  simp only [Formatter.line_eq, hleave, htime, mem_directives]
  cases f.shownTime r.instant.moment with
  | error e => exact .inr ⟨e, rfl, rfl⟩
  | ok time => exact fillPieces_dressed hcoloured true (pieces f.layout)

/-- The slot of the column for levels on the console. -/
def levelSlot : Slot := ⟨['-'], 8, none⟩

theorem padRight_eq_layOut (s : Text) : padRight 8 s = levelSlot.layOut (levelSlot.cut s) := by
  simp [padRight, levelSlot, Slot.layOut, Slot.cut, Slot.textual, Text.fill]

theorem keepsTint_levelSlot (colour name : Text) :
    levelSlot.KeepsTint colour name ↔ 8 ≤ name.length := by
  have htinted : (tinted colour name).length ≠ 0 := by
    simp [tinted, escapeSequence]
  exact (or_iff_right htinted).trans (and_iff_left (.inr (Nat.le_refl _)))

/-- The name that fills the column is that of the highest level. -/
theorem levelName_fills : ∀ entry ∈ colours,
    (8 ≤ (levelName entry.1).length ↔ entry.1 = critical) := by
  decide

/-- On the console the column of the level is the same with colours and without exactly if the name
of the level leaves no room in it. -/
theorem untinted_consoleLine {e : Entry} (h : colours.lookup e.level = some colour)
    (hname : EscapeFree e.name) (hmessage : EscapeFree e.message) :
    untinted colour (Registry.consoleLine true e) = Registry.consoleLine false e ↔
      e.level = critical := by
  have hmem : (e.level, colour) ∈ colours := Dict.mem_of_lookup h
  have hcolour : IsColour colour := isColour_of_mem hmem
  have hword : IsEvenWord (levelName e.level) := (colours_bare _ hmem).1
  have htime : EscapeFree (e.instant.moment.text "%H:%M:%S".toList) := escapeFree_text _ (by decide)
  have hbehind : EscapeFree (' ' :: (e.name ++ (" - ".toList ++ e.message))) := by
    simp only [escapeFree_append, escapeFree_cons]
    exact ⟨by decide, hname, by decide, hmessage⟩
  have hcolumn : ShowsTint colour (8 ≤ (levelName e.level).length)
      (padRight 8 (tinted colour (levelName e.level))) (padRight 8 (levelName e.level)) := by
    rw [padRight_eq_layOut, padRight_eq_layOut]
    exact (showsTint_name hcolour hword levelSlot).congr (keepsTint_levelSlot _ _).symm
  have hline := (ShowsTint.same htime trivial).append
    ((ShowsTint.same (s := [' ']) (by decide) trivial).append
      (hcolumn.append (ShowsTint.same hbehind trivial)))
  have hfills : 8 ≤ (levelName e.level).length ↔ e.level = critical := levelName_fills _ hmem
  have hshown : Registry.shownLevel true e.level = tinted colour (levelName e.level) := by
    have hfound : (Registry.consoleFormatter true).colour? e.level = some colour := h
    rw [Registry.shownLevel, hfound]
  have hplain : Registry.shownLevel false e.level = levelName e.level := rfl
  rw [Registry.consoleLine, Registry.consoleLine, hshown, hplain]
  exact (hline.untinted_eq_iff hcolour).trans (by simpa using hfills)

/-- Deleting the escape sequences of its colour from a line gives the line without colours exactly
if every directive of the layout keeps the name of the level. Both formatters fail alike, and levels
without a colour have the same lines. The line without colours has no escape characters if there are
none in the layout, the format for times and the message. On the console, the one level that keeps
its column is the one whose name fills it. -/
theorem untinted_line_iff (e : Entry) (layout : Text) (timeFormat : Option Text) :
    let r := Record.of e
    let plain := ((Formatter.mk layout timeFormat false).apply r).1
    let coloured := ((Formatter.mk layout timeFormat true).apply r).1
    (colours.lookup e.level = none → coloured = plain) ∧
      (∀ failure, plain = .error failure → coloured = .error failure) ∧
      (∀ colour line, colours.lookup e.level = some colour → plain = .ok line →
        EscapeFree line → ∃ tintedLine, coloured = .ok tintedLine ∧
          (untinted colour tintedLine = line ↔
            ∀ d ∈ directives layout, d.KeepsTint r colour)) ∧
      (e.IsEscapeFree → EscapeFree layout →
        (∀ format, timeFormat = some format → EscapeFree format) →
        ∀ line, plain = .ok line → EscapeFree line) ∧
      ∀ colour, colours.lookup e.level = some colour → EscapeFree e.name →
        EscapeFree e.message →
        ∃ line tintedLine, ((Registry.consoleFormatter false).apply r).1 = .ok line ∧
          ((Registry.consoleFormatter true).apply r).1 = .ok tintedLine ∧
          (untinted colour tintedLine = line ↔ e.level = critical) := by
  intro r plain coloured
  let f := Formatter.mk layout timeFormat true
  have hplain : plain = (f.line r).1 := rfl
  have hnone (hlookup : colours.lookup e.level = none) : coloured = plain :=
    fst_apply_of_none hlookup
  have hsome {colour : Text} (hlookup : colours.lookup e.level = some colour) :
      coloured = (f.line (r.dressed colour)).1 := fst_apply_of_some hlookup
  have hlines {colour : Text} (hlookup : colours.lookup e.level = some colour) :=
    line_dressed (isColoured_of hlookup) f
  refine ⟨hnone, fun failure hfailure => ?_, fun colour line hlookup hline hfree => ?_,
    fun he hlayout hformat line hline => ?_, fun colour hlookup hname hmessage => ?_⟩
  · cases hlookup : colours.lookup e.level with
    | none => exact (hnone hlookup).trans hfailure
    | some colour =>
        obtain ⟨p, t, hp, -⟩ | ⟨failure', hp, ht⟩ := hlines hlookup
        · cases (hplain.symm.trans hfailure).symm.trans hp
        · cases (hplain.symm.trans hfailure).symm.trans hp
          exact (hsome hlookup).trans ht
  · obtain ⟨p, t, hp, ht, hgoes⟩ | ⟨failure, hp, -⟩ := hlines hlookup
    · cases (hplain.symm.trans hline).symm.trans hp
      exact ⟨t, (hsome hlookup).trans ht,
        (hgoes hfree).untinted_eq_iff (isColour_of_mem (Dict.mem_of_lookup hlookup)) hfree⟩
    · cases (hplain.symm.trans hline).symm.trans hp
  · exact escapeFree_line (f := f) he hlayout hformat (hplain.symm.trans hline)
  · exact ⟨_, _, Registry.fst_apply_consoleFormatter false rfl,
      Registry.fst_apply_consoleFormatter true rfl, untinted_consoleLine hlookup hname hmessage⟩

/-- A column as wide as the name shows it alike, and so does the name of the file, which is not
touched. -/
theorem untinted_line_iff_warning :
    let e := Entry.ofMessage "app".toList warning "hi".toList .unknown .epoch
    let layout := "%(filename)s %(levelname)-7s|".toList
    ∃ tintedLine, ((Formatter.mk layout none true).apply (Record.of e)).1 = .ok tintedLine ∧
      untinted "33".toList tintedLine = "(unknown file) WARNING|".toList := by
  intro e layout
  obtain ⟨-, -, hlines, -⟩ := untinted_line_iff e layout none
  obtain ⟨tintedLine, hok, hiff⟩ := hlines "33".toList "(unknown file) WARNING|".toList
    (by decide) (by decide +kernel) (by decide)
  exact ⟨tintedLine, hok, hiff.2 (by decide +kernel)⟩

/-- The column of the level is eight characters wide, but in colours it is as wide as the name. -/
theorem untinted_console_info :
    let r := Record.of (Entry.ofMessage "app".toList info "hi".toList .unknown .epoch)
    let plain := ((Registry.consoleFormatter false).apply r).1
    let coloured := ((Registry.consoleFormatter true).apply r).1
    colours.lookup info = some "32".toList ∧
      plain = .ok "00:00:00 INFO     app - hi".toList ∧
      coloured = .ok "00:00:00 \x1b[32mINFO\x1b[0m app - hi".toList ∧
      coloured.map (untinted "32".toList) = .ok "00:00:00 INFO app - hi".toList ∧
      coloured.map (untinted "32".toList) ≠ plain := by
  decide +kernel

end Formatters

end Phrasebook.Log
