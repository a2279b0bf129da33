import Mathlib.Data.List.TakeWhile
import Phrasebook.Text.Basic

/-!
# Pieces of a text

A text is cut at a separator into pieces that do not have it. Joining the pieces gives the text
back, and pieces without the separator that are joined are found again.
-/

namespace Phrasebook.Text

/-! ## Splitting -/

theorem splitOn_append_cons (sep : Char) (a b : Text) :
    splitOn sep (a ++ sep :: b) = splitOn sep a ++ splitOn sep b := by
  induction a with
  | nil => rw [List.nil_append, splitOn_cons_self, splitOn_nil, List.singleton_append]
  | cons c a ih =>
      by_cases h : c = sep
      · rw [h, List.cons_append, splitOn_cons_self, splitOn_cons_self, ih, List.cons_append]
      · rw [List.cons_append, splitOn_cons_of_ne h, splitOn_cons_of_ne h, ih]
        cases hsplit : splitOn sep a with
        | nil => exact absurd hsplit (splitOn_ne_nil sep a)
        | cons first rest => rfl

theorem splitOn_of_not_mem {sep : Char} {a : Text} (h : sep ∉ a) : splitOn sep a = [a] := by
  induction a with
  | nil => rfl
  | cons c a ih =>
      have hc : c ≠ sep := fun heq => h (heq ▸ List.mem_cons_self)
      rw [splitOn_cons_of_ne hc, ih fun hmem => h (List.mem_cons_of_mem _ hmem)]
      rfl

/-- Pieces without the separator are found again when they are joined by it. -/
theorem splitOn_join {sep : Char} {pieces : List Text} (hne : pieces ≠ [])
    (h : ∀ piece ∈ pieces, sep ∉ piece) : splitOn sep (join [sep] pieces) = pieces := by
  induction pieces with
  | nil => exact absurd rfl hne
  | cons piece rest ih =>
      have hpiece : splitOn sep piece = [piece] := splitOn_of_not_mem (h piece List.mem_cons_self)
      have hrest : ∀ other ∈ rest, sep ∉ other := fun other hother =>
        h other (List.mem_cons_of_mem piece hother)
      cases rest with
      | nil => exact hpiece
      | cons next rest =>
          rw [join_cons_cons, List.append_assoc, List.singleton_append, splitOn_append_cons, hpiece,
            ih (List.cons_ne_nil next rest) hrest]
          rfl

theorem not_mem_of_mem_splitOn {sep : Char} {a piece : Text} (h : piece ∈ splitOn sep a) :
    sep ∉ piece := by
  induction a generalizing piece with
  | nil => simp_all
  | cons c a ih =>
      by_cases hc : c = sep
      · rw [hc, splitOn_cons_self] at h
        rcases List.mem_cons.1 h with rfl | h
        · simp
        · exact ih h
      · rw [splitOn_cons_of_ne hc] at h
        cases hsplit : splitOn sep a with
        | nil => exact absurd hsplit (splitOn_ne_nil sep a)
        | cons first rest =>
            rw [hsplit] at h
            rcases List.mem_cons.1 h with rfl | h
            · have := ih (hsplit ▸ List.mem_cons_self)
              simp [Ne.symm hc, this]
            · exact ih (hsplit ▸ List.mem_cons_of_mem _ h)

/-! ## Joining -/

/-- A character of a joined text is one of the separator or of a piece. -/
theorem mem_join {sep : Text} {pieces : List Text} {c : Char} (h : c ∈ join sep pieces) :
    c ∈ sep ∨ ∃ piece ∈ pieces, c ∈ piece := by
  fun_induction join sep pieces with
  | case1 => cases h
  | case2 piece => exact .inr ⟨piece, List.mem_singleton_self piece, h⟩
  | case3 piece rest _ ih =>
      rcases List.mem_append.1 h with hfirst | hrest
      · rcases List.mem_append.1 hfirst with hpiece | hsep
        · exact .inr ⟨piece, List.mem_cons_self, hpiece⟩
        · exact .inl hsep
      · rcases ih hrest with hsep | ⟨other, hother, hmem⟩
        · exact .inl hsep
        · exact .inr ⟨other, List.mem_cons_of_mem piece hother, hmem⟩

theorem infix_join_of_mem {separator piece : Text} {pieces : List Text} (h : piece ∈ pieces) :
    piece <:+: join separator pieces := by
  induction pieces with
  | nil => cases h
  | cons first rest ih =>
      cases rest with
      | nil =>
          obtain rfl := List.mem_singleton.1 h
          exact List.infix_rfl
      | cons next rest =>
          rw [join_cons_cons, List.append_assoc]
          rcases List.mem_cons.1 h with rfl | h
          · exact (List.prefix_append _ _).isInfix
          · exact ((ih h).trans (List.suffix_append _ _).isInfix).trans
              (List.suffix_append _ _).isInfix

theorem join_modifyHead_cons (separator : Text) (c : Char) {pieces : List Text}
    (h : pieces ≠ []) :
    join separator (pieces.modifyHead (c :: ·)) = c :: join separator pieces := by
  obtain ⟨first, rest, rfl⟩ := List.exists_cons_of_ne_nil h
  cases rest with
  | nil => rfl
  | cons next rest =>
      rw [List.modifyHead_cons, join_cons_cons, join_cons_cons]
      rfl

theorem join_nil_cons (separator : Text) {pieces : List Text} (h : pieces ≠ []) :
    join separator ([] :: pieces) = separator ++ join separator pieces := by
  obtain ⟨first, rest, rfl⟩ := List.exists_cons_of_ne_nil h
  rfl

/-- The pieces of a text are joined to the text. -/
theorem join_splitOn (sep : Char) (s : Text) : join [sep] (splitOn sep s) = s := by
  induction s with
  | nil => rfl
  | cons c rest ih =>
      by_cases h : c = sep
      · rw [h, splitOn_cons_self, join_nil_cons _ (splitOn_ne_nil sep rest), ih]
        rfl
      · rw [splitOn_cons_of_ne h, join_modifyHead_cons _ c (splitOn_ne_nil sep rest), ih]

theorem infix_of_mem_splitOn {sep : Char} {s piece : Text} (h : piece ∈ splitOn sep s) :
    piece <:+: s := by
  have hinfix : piece <:+: join [sep] (splitOn sep s) := infix_join_of_mem h
  rwa [join_splitOn] at hinfix

/-! ## The first piece -/

theorem not_mem_before (sep : Char) (s : Text) : sep ∉ before sep s := by
  intro hmem
  simpa using List.mem_takeWhile_imp hmem

theorem before_append {sep : Char} {s : Text} (h : sep ∉ s) (rest : Text) :
    before sep (s ++ sep :: rest) = s := by
  induction s with
  | nil => simp [before]
  | cons c s ih =>
      have hc : c ≠ sep := fun heq => h (heq ▸ List.mem_cons_self)
      have hs : before sep (s ++ sep :: rest) = s := ih fun hmem => h (List.mem_cons_of_mem _ hmem)
      rw [before] at hs
      simp [before, hc, hs]

theorem before_of_not_mem {sep : Char} {s : Text} (h : sep ∉ s) : before sep s = s := by
  apply List.takeWhile_eq_self_iff.2
  intro c hc
  have hne : c ≠ sep := fun heq => h (heq ▸ hc)
  simpa using hne

/-- What comes before the first separator is the whole text, or the separator is next. -/
theorem exists_before (sep : Char) (s : Text) :
    s = before sep s ∨ ∃ rest, s = before sep s ++ sep :: rest := by
  have hsplit : s = before sep s ++ s.dropWhile (· != sep) := List.takeWhile_append_dropWhile.symm
  cases hrest : s.dropWhile (· != sep) with
  | nil =>
      rw [hrest, List.append_nil] at hsplit
      exact .inl hsplit
  | cons c rest =>
      have hc : c = sep := by
        have hhead := List.head?_dropWhile_not (· != sep) s
        rw [hrest] at hhead
        simpa using hhead
      rw [hrest, hc] at hsplit
      exact .inr ⟨rest, hsplit⟩

/-! ## Trimming -/

theorem trim_isInfix (blank : Char → Bool) (s : Text) : trim blank s <:+: s := by
  have hprefix : trim blank s <+: s.dropWhile blank := by
    rw [trim, ← List.reverse_suffix, List.reverse_reverse]
    exact List.dropWhile_suffix _
  exact hprefix.isInfix.trans (List.dropWhile_suffix _).isInfix

end Phrasebook.Text
