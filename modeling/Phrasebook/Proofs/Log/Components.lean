import Phrasebook.Proofs.Dict
import Phrasebook.Proofs.Log.Levels

/-!
# The levels of the library's own loggers

Setting the levels of the library's own loggers gives each of them its level, whatever it was, and
leaves every other logger the level that it had. All of them are known then, and no decision is
remembered.
-/

namespace Phrasebook.Log.Registry

variable {s : Registry} {name : Text} {level : Level} {pairs : List (Text × Level)}

/-- The level of one of the library's own loggers. -/
def componentLevel? (debug : Bool) (name : Text) : Option Level :=
  (componentLevels.lookup name).map fun level => if debug then Log.debug else level

/-! ## Setting one level -/

/-- Setting a level asks for the logger and forgets what was decided. -/
theorem setLevel_eq (s : Registry) (name : Text) (level : Level) :
    ∃ more, rootName ∉ more ∧ s.setLevel name level =
      { s.withKnown more with levels := s.levels.put name level, decided := [] } := by
  obtain ⟨more, hmore, hask⟩ := ask_eq_withKnown s name
  exact ⟨more, hmore, by rw [setLevel, hask]⟩

theorem ownLevel_setLevel (h : isRoot name = false) (level : Level) (other : Text) :
    (s.setLevel name level).ownLevel other = if other = name then level else s.ownLevel other := by
  obtain ⟨more, -, hset⟩ := setLevel_eq s name level
  rw [hset]
  simp only [ownLevel, withKnown, Dict.get?_put]
  by_cases heq : other = name
  · simp [heq, h]
  · simp [heq]

/-! ## Setting levels one after the other -/

theorem setLevels_cons (s : Registry) (debug : Bool) (name : Text) (level : Level) :
    s.setLevels debug ((name, level) :: pairs) =
      (s.setLevel name (if debug then Log.debug else level)).setLevels debug pairs := rfl

theorem setLevels_eq (hdecided : s.decided = []) (debug : Bool) (pairs : List (Text × Level)) :
    ∃ more levels, rootName ∉ more ∧
      s.setLevels debug pairs = { s.withKnown more with levels } := by
  induction pairs generalizing s with
  | nil => exact ⟨[], s.levels, List.not_mem_nil, by simp [withKnown, setLevels]⟩
  | cons pair rest ih =>
      obtain ⟨name, level⟩ := pair
      obtain ⟨first, hfirst, hset⟩ := setLevel_eq s name (if debug then Log.debug else level)
      obtain ⟨more, levels, hmore, hrest⟩ := ih (s := s.setLevel name _) (by rw [hset])
      refine ⟨first ++ more, levels, by simp [hfirst, hmore], ?_⟩
      rw [setLevels_cons, hrest, hset]
      simp only [withKnown, List.append_assoc, hdecided]

theorem mem_known_setLevels (debug : Bool) (hproper : ∀ pair ∈ pairs, isRoot pair.1 = false)
    (h : name ∈ s.known ∨ ∃ level, (name, level) ∈ pairs) :
    name ∈ (s.setLevels debug pairs).known := by
  induction pairs generalizing s with
  | nil => simpa [setLevels] using h
  | cons pair rest ih =>
      obtain ⟨first, level⟩ := pair
      have hknown : (s.setLevel first (if debug then Log.debug else level)).known =
          (s.ask first).known := rfl
      rw [setLevels_cons]
      refine ih (fun pair hpair => hproper pair (List.mem_cons_of_mem _ hpair)) ?_
      rw [hknown]
      obtain hmem | ⟨level, hmem⟩ := h
      · obtain ⟨more, -, hask⟩ := ask_eq_withKnown s first
        rw [hask]
        exact .inl (List.mem_append_left _ hmem)
      · rcases List.mem_cons.1 hmem with heq | hmem
        · cases heq
          exact .inl (mem_known_ask s (hproper _ List.mem_cons_self))
        · exact .inr ⟨level, hmem⟩

theorem ownLevel_setLevels (debug : Bool) (hproper : ∀ pair ∈ pairs, isRoot pair.1 = false)
    (hnodup : (pairs.map Prod.fst).Nodup) (name : Text) :
    (s.setLevels debug pairs).ownLevel name =
      ((pairs.lookup name).map fun level => if debug then Log.debug else level).getD
        (s.ownLevel name) := by
  induction pairs generalizing s with
  | nil => rfl
  | cons pair rest ih =>
      obtain ⟨first, level⟩ := pair
      obtain ⟨hfirst, hrest⟩ := List.nodup_cons.1 hnodup
      rw [setLevels_cons, ih (fun pair hpair => hproper pair (List.mem_cons_of_mem _ hpair)) hrest,
        ownLevel_setLevel (hproper _ List.mem_cons_self)]
      by_cases heq : name = first
      · have hnone : rest.lookup first = none := by
          rw [List.lookup_eq_none_iff]
          rintro ⟨other, level⟩ hmem
          have hne : first ≠ other := fun hother => hfirst (List.mem_map.2 ⟨_, hmem, hother.symm⟩)
          simpa using hne
        simp [heq, hnone]
      · have hbeq : (name == first) = false := by simpa using heq
        rw [List.lookup_cons, hbeq, if_neg heq]

/-! ## The library's own loggers -/

theorem isRoot_of_mem_componentLevels :
    ∀ pair ∈ componentLevels, isRoot pair.1 = false := by
  decide

/-- The library's own loggers get their levels, and no other logger gets another one. -/
theorem ownLevel_setComponents (s : Registry) (debug : Bool) (name : Text) :
    (s.setComponents debug).ownLevel name =
      (componentLevel? debug name).getD (s.ownLevel name) :=
  ownLevel_setLevels debug isRoot_of_mem_componentLevels (by decide) name

theorem mem_known_setComponents (s : Registry) (debug : Bool)
    (h : name ∈ s.known ∨ ∃ level, (name, level) ∈ componentLevels) :
    name ∈ (s.setComponents debug).known :=
  mem_known_setLevels debug isRoot_of_mem_componentLevels h

theorem setComponents_eq (hdecided : s.decided = []) (debug : Bool) :
    ∃ more levels, rootName ∉ more ∧
      s.setComponents debug = { s.withKnown more with levels } :=
  setLevels_eq hdecided debug componentLevels

theorem mem_componentLevels_of_componentLevel? {debug : Bool}
    (h : componentLevel? debug name = some level) :
    ∃ level, (name, level) ∈ componentLevels := by
  obtain ⟨own, hlookup, -⟩ := Option.map_eq_some_iff.1 h
  exact ⟨own, Dict.mem_of_lookup hlookup⟩

theorem componentLevel?_eq_none (debug : Bool) (h : name ∉ componentLevels.map Prod.fst) :
    componentLevel? debug name = none := by
  rw [componentLevel?, Option.map_eq_none_iff, List.lookup_eq_none_iff]
  intro pair hpair
  have hne : name ≠ pair.1 := fun heq => h (heq ▸ List.mem_map_of_mem hpair)
  simpa using hne

/-- Loggers that get a level become known. -/
theorem KnowsLevels.setComponents (h : s.KnowsLevels) (debug : Bool) :
    (s.setComponents debug).KnowsLevels := by
  intro name hroot hlevel
  rw [ownLevel_setComponents] at hlevel
  cases hcomponent : componentLevel? debug name with
  | none =>
      rw [hcomponent] at hlevel
      exact mem_known_setComponents s debug (.inl (h name hroot hlevel))
  | some level =>
      exact mem_known_setComponents s debug
        (.inr (mem_componentLevels_of_componentLevel? hcomponent))

end Phrasebook.Log.Registry
