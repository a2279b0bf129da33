import Phrasebook.Proofs.Log.Handlers
import Phrasebook.Proofs.Log.Levels

/-!
# Messages one after the other

Logging a message asks for its logger, remembers what is decided for its level, and lets the
handlers write. Nothing else changes, so a registry that follows another one through messages has
the same levels and handlers. What it remembers is right for every logger whose level is steady; for
other loggers a decision may be out of date.
-/

namespace Phrasebook.Log

namespace Registry

variable {s t base : Registry} {name : Text} {level : Level}

/-! ## The parts of a step -/

/-- A message as its logger passes it on to the handlers. -/
def passedOn (e : Entry) : Entry :=
  { e with name := properName e.name }

/-- Whether there is a record of a message: its logger emits messages of its level, and the level
can be written. -/
def isRecorded (s : Registry) (e : Entry) : Bool :=
  (s.ask e.name).emits e.name e.level && Value.hasText (.integer e.level)

/-- Logging a message asks for the logger, decides, and lets the handlers write. -/
theorem log_eq (s : Registry) (e : Entry) :
    s.log e =
      (if s.isRecorded e then (handle s.files (Record.of (passedOn e)) s.handlers).1 else [],
        { (s.ask e.name).settle e.name e.level with
          files := if s.isRecorded e then
            (handle s.files (Record.of (passedOn e)) s.handlers).2 else s.files }) := by
  obtain ⟨more, -, hask⟩ := ask_eq_withKnown s e.name
  have hemits : ((s.ask e.name).settle e.name e.level).emits e.name e.level =
      (s.ask e.name).emits e.name e.level := by
    rw [emits, settle, Dict.get?_put_self]
    rfl
  rw [log, isRecorded, hemits, hask]
  split <;> rfl

/-! ## Proper names -/

theorem isRoot_properName (name : Text) : isRoot (properName name) = isRoot name := by
  rw [properName]
  cases h : isRoot name with
  | true => exact isRoot_rootName
  | false => exact h

theorem effectiveLevel_properName (s : Registry) (name : Text) :
    s.effectiveLevel (properName name) = s.effectiveLevel name := by
  cases h : isRoot name with
  | true =>
      rw [effectiveLevel_of_isRoot h, effectiveLevel_of_isRoot ((isRoot_properName name).trans h)]
  | false => rw [properName, h, if_neg Bool.false_ne_true]

theorem reaches_properName (s : Registry) (name : Text) (level : Level) :
    s.reaches (properName name) level = s.reaches name level := by
  rw [reaches, reaches, effectiveLevel_properName]

theorem isSteady_properName : s.IsSteady (properName name) ↔ s.IsSteady name := by
  simp only [IsSteady, effectiveLevel_properName]

/-! ## Following through messages -/

/-- Whether a registry may come from another one through messages. -/
structure Follows (base s : Registry) : Prop where
  settings : s.settings = base.settings
  terminal : s.terminal = base.terminal
  rootLevel : s.rootLevel = base.rootLevel
  handlers : s.handlers = base.handlers
  levels : s.levels = base.levels
  known : ∃ more, rootName ∉ more ∧ s.known = base.known ++ more
  /-- What is remembered is right for loggers with a steady level. -/
  decided : ∀ name level reached, s.decided.get? (name, level) = some reached →
    base.IsSteady name → reached = base.reaches name level

theorem Follows.refl (h : base.decided = []) : Follows base base where
  settings := rfl
  terminal := rfl
  rootLevel := rfl
  handlers := rfl
  levels := rfl
  known := ⟨[], List.not_mem_nil, (List.append_nil _).symm⟩
  decided := by
    intro name level reached hreached
    rw [h] at hreached
    cases hreached

theorem Follows.withKnown (h : Follows base s) {more : List Text} (hmore : rootName ∉ more) :
    Follows base (s.withKnown more) where
  settings := h.settings
  terminal := h.terminal
  rootLevel := h.rootLevel
  handlers := h.handlers
  levels := h.levels
  known := by
    obtain ⟨before, hbefore, hknown⟩ := h.known
    refine ⟨before ++ more, by simp [hbefore, hmore], ?_⟩
    rw [Registry.withKnown, hknown, List.append_assoc]
  decided := h.decided

theorem Follows.ask (h : Follows base s) (name : Text) : Follows base (s.ask name) := by
  obtain ⟨more, hmore, hask⟩ := ask_eq_withKnown s name
  rw [hask]
  exact h.withKnown hmore

theorem Follows.effectiveLevel (h : Follows base s) (hsteady : base.IsSteady name) :
    s.effectiveLevel name = base.effectiveLevel name := by
  obtain ⟨more, hmore, hknown⟩ := h.known
  rw [← hsteady more hmore]
  exact effectiveLevel_congr h.rootLevel h.levels (congrArg (chain · name) hknown)

/-- A logger with a steady level emits what its level lets through, whatever was decided. -/
theorem Follows.emits (h : Follows base s) (hsteady : base.IsSteady name) (level : Level) :
    s.emits name level = base.reaches name level := by
  rw [Registry.emits]
  cases hdecided : s.decided.get? (properName name, level) with
  | none => rw [Option.getD_none, reaches, reaches, h.effectiveLevel hsteady]
  | some reached =>
      rw [Option.getD_some, h.decided _ _ _ hdecided (isSteady_properName.2 hsteady),
        reaches_properName]

theorem Follows.settle (h : Follows base s) (name : Text) (level : Level) :
    Follows base (s.settle name level) where
  settings := h.settings
  terminal := h.terminal
  rootLevel := h.rootLevel
  handlers := h.handlers
  levels := h.levels
  known := h.known
  decided := by
    intro other otherLevel reached hreached hsteady
    rw [Registry.settle, Dict.get?_put] at hreached
    split at hreached
    · rename_i hkey
      cases hreached
      obtain ⟨rfl, rfl⟩ := Prod.mk.inj hkey
      rw [reaches_properName]
      exact h.emits (isSteady_properName.1 hsteady) _
    · exact h.decided other otherLevel reached hreached hsteady

/-- A message leads on. -/
theorem Follows.log (h : Follows base s) (e : Entry) : Follows base (s.log e).2 := by
  have hsettle := (h.ask e.name).settle e.name e.level
  rw [log_eq]
  exact ⟨hsettle.settings, hsettle.terminal, hsettle.rootLevel, hsettle.handlers,
    hsettle.levels, hsettle.known, hsettle.decided⟩

theorem Follows.reaches (h : Follows base s) (hsteady : base.IsSteady name) (level : Level) :
    s.reaches name level = base.reaches name level := by
  rw [Registry.reaches, Registry.reaches, h.effectiveLevel hsteady]

/-! ## What has not been decided -/

end Registry

end Phrasebook.Log
