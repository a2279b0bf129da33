import Phrasebook.Log.Registry
import Phrasebook.Proofs.Dict
import Phrasebook.Proofs.Log.Ancestry

/-!
# Effective levels

The effective level of a logger is the first level that is set on the way from it to the root.
Asking for more loggers makes that way longer. The level is steady if that can make no difference:
it is for regular names, since loggers that were not known before have no level of their own.
-/

namespace Phrasebook.Log.Registry

variable {s t : Registry} {name other : Text} {level : Level}

/-! ## Own levels -/

theorem ownLevel_of_isRoot (h : isRoot name = true) : s.ownLevel name = s.rootLevel :=
  if_pos h

theorem isRoot_rootName : isRoot rootName = true := by decide

theorem isRoot_of_head? {c : Char} (h : name.head? = some c) (hc : c ≠ 'r') :
    isRoot name = false := by
  obtain ⟨rest, rfl⟩ := List.head?_eq_some_iff.1 h
  simp [isRoot, rootName, hc]

theorem ownLevel_congr (hroot : s.rootLevel = t.rootLevel) (hlevels : s.levels = t.levels)
    (name : Text) : s.ownLevel name = t.ownLevel name := by
  rw [ownLevel, ownLevel, hroot, hlevels]

/-! ## The way to the root -/

/-- The first level that is set among those of some loggers, else that of the root. -/
def firstLevel (s : Registry) (names : List Text) : Level :=
  ((names.find? (s.ownLevel · != 0)).map s.ownLevel).getD s.rootLevel

theorem effectiveLevel_of_isRoot (h : isRoot name = true) :
    s.effectiveLevel name = s.rootLevel :=
  if_pos h

theorem effectiveLevel_eq_firstLevel (h : isRoot name = false) :
    s.effectiveLevel name = s.firstLevel (name :: chain s.known name) := by
  have hfind : ((name :: chain s.known name).map s.ownLevel).find? (· != 0) =
      ((name :: chain s.known name).find? (s.ownLevel · != 0)).map s.ownLevel := List.find?_map
  rw [effectiveLevel, h, if_neg Bool.false_ne_true, hfind, firstLevel]
  cases (name :: chain s.known name).find? (s.ownLevel · != 0) <;> rfl

theorem effectiveLevel_congr (hroot : s.rootLevel = t.rootLevel) (hlevels : s.levels = t.levels)
    (hchain : chain s.known name = chain t.known name) :
    s.effectiveLevel name = t.effectiveLevel name := by
  have hown : s.ownLevel = t.ownLevel := funext fun name => ownLevel_congr hroot hlevels name
  rw [effectiveLevel, effectiveLevel, hroot, hchain, hown]

/-- Where all levels that are set are the same, that is the first one. -/
theorem firstLevel_eq_of_forall {names : List Text} (h : ∀ name ∈ names, s.ownLevel name = 0 ∨
    s.ownLevel name = level) (hlevel : level = s.rootLevel ∨ ∃ name ∈ names, s.ownLevel name ≠ 0) :
    s.firstLevel names = level := by
  rw [firstLevel]
  cases hfind : names.find? (s.ownLevel · != 0) with
  | none =>
      obtain heq | ⟨name, hmem, hne⟩ := hlevel
      · exact heq.symm
      · exact absurd (by simpa using hne) (List.find?_eq_none.1 hfind name hmem)
  | some name =>
      have hne : s.ownLevel name ≠ 0 := by simpa using List.find?_some hfind
      exact (h name (List.mem_of_find?_eq_some hfind)).resolve_left hne

/-- Loggers without a level that stand before one that has a level make no difference. -/
theorem firstLevel_of_append {before after : List Text}
    (hbefore : ∀ other ∈ before, s.ownLevel other = 0) (hlevel : s.ownLevel name ≠ 0) :
    s.firstLevel (before ++ name :: after) = s.ownLevel name := by
  have hfind : (before ++ name :: after).find? (s.ownLevel · != 0) = some name := by
    rw [List.find?_eq_some_iff_append]
    refine ⟨by simpa using hlevel, before, after, rfl, fun other hmem => ?_⟩
    simp [hbefore other hmem]
  rw [firstLevel, hfind]
  rfl

/-! ## Loggers that are asked for -/

/-- A registry in which more loggers have been asked for. -/
def withKnown (s : Registry) (more : List Text) : Registry :=
  { s with known := s.known ++ more }

theorem ask_eq_withKnown (s : Registry) (name : Text) :
    ∃ more, rootName ∉ more ∧ s.ask name = s.withKnown more := by
  unfold ask
  split
  · exact ⟨[], List.not_mem_nil, by rw [withKnown, List.append_nil]⟩
  · rename_i h
    refine ⟨[name], ?_, rfl⟩
    intro hmem
    rw [← List.mem_singleton.1 hmem, isRoot_rootName] at h
    simp at h

theorem mem_known_ask (s : Registry) (h : isRoot name = false) : name ∈ (s.ask name).known := by
  unfold ask
  split
  · simp_all
  · exact List.mem_append_right _ List.mem_cons_self

/-- Whether the level of a logger stays the same when loggers are asked for. -/
def IsSteady (s : Registry) (name : Text) : Prop :=
  ∀ more, rootName ∉ more → (s.withKnown more).effectiveLevel name = s.effectiveLevel name

/-- Every logger with a level of its own has been asked for. -/
def KnowsLevels (s : Registry) : Prop :=
  ∀ name, isRoot name = false → s.ownLevel name ≠ 0 → name ∈ s.known

end Phrasebook.Log.Registry
