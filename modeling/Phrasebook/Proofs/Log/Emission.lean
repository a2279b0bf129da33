import Phrasebook.Proofs.Log.SetUp

/-!
# Which messages are shown after a set-up

Where no logger had a level of its own before, a set-up leaves four levels: those of the root, of
`localekit`, of `localekit.core` and of `localekit.infra`. The levels that matter to a logger lie on
the way from it to the root, and a name lies under another one if it goes on behind it with a dot.
So a logger under `localekit.infra` lets warnings through, another one under `localekit` lets what
the program does in its normal course through, and the rest go by the root.
-/

namespace Phrasebook.Log

/-! ## Names under other names -/

/-- Whether a name is another one, or goes on behind it with a dot. -/
def IsUnder (top name : Text) : Prop :=
  name = top ∨ top ++ ['.'] <+: name

instance (top name : Text) : Decidable (IsUnder top name) :=
  inferInstanceAs (Decidable (_ ∨ _))

variable {top middle name other : Text} {known : List Text}

theorem isUnder_iff : IsUnder top name ↔ name = top ∨ ∃ rest, name = top ++ '.' :: rest := by
  refine or_congr_right ⟨?_, ?_⟩
  · rintro ⟨rest, rfl⟩
    exact ⟨rest, by simp⟩
  · rintro ⟨rest, rfl⟩
    exact ⟨rest, by simp⟩

theorem IsUnder.trans (h : IsUnder top middle) (h' : IsUnder middle name) : IsUnder top name := by
  rw [isUnder_iff] at *
  obtain rfl | ⟨rest, rfl⟩ := h
  · exact h'
  · obtain rfl | ⟨rest', rfl⟩ := h'
    · exact .inr ⟨rest, rfl⟩
    · exact .inr ⟨rest ++ '.' :: rest', by simp⟩

/-- A logger lies under every logger on its way to the root. -/
theorem isUnder_of_mem_way (h : other ∈ name :: chain known name) : IsUnder other name := by
  rw [isUnder_iff]
  obtain rfl | h := List.mem_cons.1 h
  · exact .inl rfl
  · exact .inr (of_mem_chain h).2.2

/-- A known logger is on the way from every logger under it, unless two dots stand between them. -/
theorem mem_way_of_isUnder (hknown : top ∈ known) (htop : top ≠ []) (h : IsUnder top name)
    (hdots : ¬top ++ ['.', '.'] <+: name) : top ∈ name :: chain known name := by
  obtain rfl | ⟨rest, rfl⟩ := isUnder_iff.1 h
  · exact List.mem_cons_self
  · refine List.mem_cons_of_mem _ (mem_chain hknown htop ?_)
    intro hhead
    obtain ⟨rest, rfl⟩ := List.head?_eq_some_iff.1 hhead
    exact hdots ⟨rest, by simp⟩

namespace Registry

variable {s : Registry}

/-! ## The levels on the way to the root -/

/-- The logger of the whole library. -/
def libraryLogger : Text := "localekit".toList

/-- The logger of what reads files. -/
def readingLogger : Text := "localekit.infra".toList

/-- The level that a message for a logger must have after a set-up, where `root` is the level of the
root. -/
def leastLevel (debug : Bool) (root : Level) (name : Text) : Level :=
  if IsUnder readingLogger name then (if debug then Log.debug else warning)
  else if IsUnder libraryLogger name then (if debug then Log.debug else info)
  else root

/-- A registry in which no loggers but the library's own have a level. -/
structure IsSetUp (debug : Bool) (s : Registry) : Prop where
  ownLevel : ∀ name, isRoot name = false → s.ownLevel name = (componentLevel? debug name).getD 0
  rootLevel : debug = true → s.rootLevel = Log.debug
  known : ∀ name ∈ componentLevels.map Prod.fst, name ∈ s.known

theorem isUnder_of_mem_componentLevels :
    ∀ name ∈ componentLevels.map Prod.fst, IsUnder libraryLogger name := by
  decide +kernel

theorem componentLevel?_of_mem_componentLevels : ∀ name ∈ componentLevels.map Prod.fst,
    componentLevel? false name = some info ∨ name = readingLogger := by
  decide +kernel

theorem componentLevel?_readingLogger : componentLevel? false readingLogger = some warning := by
  decide +kernel

theorem length_le_of_mem_componentLevels :
    ∀ name ∈ componentLevels.map Prod.fst, name.length ≤ readingLogger.length := by
  decide +kernel

theorem componentLevel?_true (name : Text) :
    componentLevel? true name = none ∨ componentLevel? true name = some Log.debug := by
  rw [componentLevel?]
  cases componentLevels.lookup name <;> simp

theorem isUnder_of_componentLevel?_ne {debug : Bool} (h : componentLevel? debug name ≠ none) :
    IsUnder libraryLogger name := by
  refine isUnder_of_mem_componentLevels name (Classical.byContradiction fun hnot => ?_)
  exact h (componentLevel?_eq_none debug hnot)

variable {debug : Bool}

/-- With debugging every logger that has a level has that of the root. -/
theorem IsSetUp.effectiveLevel_debug (h : IsSetUp true s) (name : Text) :
    s.effectiveLevel name = Log.debug := by
  cases hroot : isRoot name with
  | true => rw [effectiveLevel_of_isRoot hroot, h.rootLevel rfl]
  | false =>
      rw [effectiveLevel_eq_firstLevel hroot]
      refine firstLevel_eq_of_forall (fun other _ => ?_) (.inl (h.rootLevel rfl).symm)
      cases hother : isRoot other with
      | true => exact .inr ((ownLevel_of_isRoot hother).trans (h.rootLevel rfl))
      | false =>
          rw [h.ownLevel other hother]
          obtain heq | heq := componentLevel?_true other <;> simp [heq]

/-- A logger outside the library goes by the root. -/
theorem IsSetUp.effectiveLevel_outside (h : IsSetUp debug s) (hname : ¬IsUnder libraryLogger name) :
    s.effectiveLevel name = s.rootLevel := by
  cases hroot : isRoot name with
  | true => exact effectiveLevel_of_isRoot hroot
  | false =>
      rw [effectiveLevel_eq_firstLevel hroot]
      refine firstLevel_eq_of_forall (fun other hmem => ?_) (.inl rfl)
      cases hother : isRoot other with
      | true => exact .inr (ownLevel_of_isRoot hother)
      | false =>
          have hnone : componentLevel? debug other = none := Classical.byContradiction fun hne =>
            hname ((isUnder_of_componentLevel?_ne hne).trans (isUnder_of_mem_way hmem))
          rw [h.ownLevel other hother, hnone]
          exact .inl rfl

theorem head?_of_isUnder (h : IsUnder libraryLogger name) : name.head? = some 'l' := by
  obtain rfl | ⟨rest, rfl⟩ := isUnder_iff.1 h <;> rfl

theorem isRoot_of_isUnder (h : IsUnder libraryLogger name) : isRoot name = false :=
  isRoot_of_head? (head?_of_isUnder h) (by decide)

/-- The root is not on the way from a logger of the library. -/
theorem isRoot_of_mem_way (known : List Text) (hname : IsUnder libraryLogger name)
    (h : other ∈ name :: chain known name) : isRoot other = false := by
  have hhead := head?_of_isUnder hname
  refine isRoot_of_head? (c := 'l') ?_ (by decide)
  obtain rfl | h := List.mem_cons.1 h
  · exact hhead
  · obtain ⟨-, hne, rest, rfl⟩ := of_mem_chain h
    cases other with
    | nil => exact absurd rfl hne
    | cons c other => exact hhead

/-- A logger of the library that reads no files lets through what is not below the usual level. -/
theorem IsSetUp.effectiveLevel_library (h : IsSetUp false s) (hname : IsUnder libraryLogger name)
    (hreading : ¬IsUnder readingLogger name) (hdots : ¬libraryLogger ++ ['.', '.'] <+: name) :
    s.effectiveLevel name = info := by
  have hknown : libraryLogger ∈ s.known := h.known _ (by decide)
  have hway := mem_way_of_isUnder hknown (by decide) hname hdots
  have hlibrary : s.ownLevel libraryLogger = info := by
    rw [h.ownLevel _ (by decide)]
    decide +kernel
  rw [effectiveLevel_eq_firstLevel (isRoot_of_isUnder hname)]
  refine firstLevel_eq_of_forall (fun other hmem => ?_)
    (.inr ⟨libraryLogger, hway, by rw [hlibrary]; decide⟩)
  rw [h.ownLevel other (isRoot_of_mem_way s.known hname hmem)]
  by_cases hcomponent : other ∈ componentLevels.map Prod.fst
  · obtain heq | rfl := componentLevel?_of_mem_componentLevels other hcomponent
    · exact .inr (by rw [heq]; rfl)
    · exact absurd (isUnder_of_mem_way hmem) hreading
  · exact .inl (by rw [componentLevel?_eq_none false hcomponent]; rfl)

/-- A logger that reads files lets warnings through. -/
theorem IsSetUp.effectiveLevel_reading (h : IsSetUp false s) (hname : IsUnder readingLogger name)
    (hdots : ¬readingLogger ++ ['.', '.'] <+: name) : s.effectiveLevel name = warning := by
  have hknown : readingLogger ∈ s.known := h.known _ (by decide)
  obtain ⟨before, after, hway⟩ :=
    List.append_of_mem (mem_way_of_isUnder hknown (by decide) hname hdots)
  have hreading : s.ownLevel readingLogger = warning := by
    rw [h.ownLevel _ (by decide), componentLevel?_readingLogger]
    rfl
  have hlibrary : IsUnder libraryLogger name := IsUnder.trans (by decide +kernel) hname
  rw [effectiveLevel_eq_firstLevel (isRoot_of_isUnder hlibrary), hway,
    firstLevel_of_append ?_ (by rw [hreading]; decide), hreading]
  intro other hmem
  -- What is nearer than the logger that reads files has a longer name than any logger with a level.
  have hlonger : readingLogger.length < other.length := by
    have hpairwise := pairwise_way s.known name
    rw [hway] at hpairwise
    exact (List.pairwise_append.1 hpairwise).2.2 other hmem readingLogger List.mem_cons_self
  have hother : isRoot other = false := by
    refine isRoot_of_mem_way s.known hlibrary ?_
    rw [hway]
    exact List.mem_append_left _ hmem
  have hcomponent : other ∉ componentLevels.map Prod.fst := by
    intro hcomponent
    exact Nat.not_lt.2 (length_le_of_mem_componentLevels other hcomponent) hlonger
  rw [h.ownLevel other hother, componentLevel?_eq_none false hcomponent]
  rfl

/-- The level from which messages for a logger are let through, unless two dots side by side make
the logger pass over those of the library. -/
theorem IsSetUp.effectiveLevel (h : IsSetUp debug s) (hdots : debug = true ∨
      ¬libraryLogger ++ ['.', '.'] <+: name ∧ ¬readingLogger ++ ['.', '.'] <+: name) :
    s.effectiveLevel name = leastLevel debug s.rootLevel name := by
  cases debug with
  | true =>
      rw [h.effectiveLevel_debug, leastLevel, h.rootLevel rfl]
      simp only [if_true, ite_self]
  | false =>
      obtain ⟨hlibrary, hreading⟩ := hdots.resolve_left Bool.false_ne_true
      rw [leastLevel]
      by_cases hread : IsUnder readingLogger name
      · rw [if_pos hread, h.effectiveLevel_reading hread hreading]
        rfl
      · rw [if_neg hread]
        by_cases hown : IsUnder libraryLogger name
        · rw [if_pos hown, h.effectiveLevel_library hown hread hlibrary]
          rfl
        · rw [if_neg hown, h.effectiveLevel_outside hown]

theorem IsSetUp.withKnown (h : IsSetUp debug s) (more : List Text) :
    IsSetUp debug (s.withKnown more) where
  ownLevel := h.ownLevel
  rootLevel := h.rootLevel
  known name hname := List.mem_append_left more (h.known name hname)

end Registry

end Phrasebook.Log
