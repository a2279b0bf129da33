import Mathlib.Data.List.Find
import Phrasebook.Log.Hierarchy

/-!
# Loggers above a name

A logger stands above another one if its name is a beginning of the other name before a dot. The
search for parents finds nothing else, and it finds every such beginning behind which exactly one
dot stands. Of two dots side by side it may pass one over, and which one depends on the loggers that
have been asked for. In a regular name, which has no two dots side by side, the known loggers above
it are all those that are known among its beginnings.
-/

namespace Phrasebook.Log

/-! ## Beginnings before a dot -/

theorem ancestorsOf_eq_cons {reversed front : Text} {d c : Char}
    (h : reversed.dropWhile (· != '.') = d :: c :: front) :
    ancestorsOf reversed = (c :: front).reverse :: ancestorsOf front := by
  rw [ancestorsOf]
  split <;> simp_all

theorem eq_dot_of_dropWhile {reversed front : Text} {d : Char}
    (h : reversed.dropWhile (· != '.') = d :: front) : d = '.' := by
  have hnot := List.head?_dropWhile_not (· != '.') reversed
  rw [h] at hnot
  simpa using hnot

/-- A dot is found at the first place from the end that is not passed over. -/
theorem dropWhile_dot {x : Text} (h : '.' ∉ x) (front : Text) :
    (x ++ '.' :: front).dropWhile (· != '.') = '.' :: front := by
  have hx : ∀ c ∈ x, (c != '.') = true := by
    rintro c hc
    simpa using fun heq : c = '.' => h (heq ▸ hc)
  rw [List.dropWhile_append_of_pos hx]
  exact List.dropWhile_cons_of_neg (by simp)

theorem eq_append_of_mem_ancestorsOf {reversed parent : Text} (h : parent ∈ ancestorsOf reversed) :
    parent ≠ [] ∧ ∃ rest, reversed.reverse = parent ++ '.' :: rest := by
  fun_induction ancestorsOf reversed with
  | case1 => simp at h
  | case2 => simp at h
  | case3 reversed d c front hd ih =>
      have hdot : d = '.' := eq_dot_of_dropWhile hd
      have hreversed := List.takeWhile_append_dropWhile (p := (· != '.')) (l := reversed)
      rw [hd, hdot] at hreversed
      rcases List.mem_cons.1 h with rfl | h
      · refine ⟨by simp, (reversed.takeWhile (· != '.')).reverse, ?_⟩
        conv => lhs; rw [← hreversed]
        simp
      · obtain ⟨hne, rest, hrest⟩ := ih h
        refine ⟨hne, rest ++ c :: '.' :: (reversed.takeWhile (· != '.')).reverse, ?_⟩
        conv => lhs; rw [← hreversed]
        simp [hrest]

/-- Every ancestor is a beginning of the name before a dot. -/
theorem eq_append_of_mem_ancestors {name parent : Text} (h : parent ∈ ancestors name) :
    parent ≠ [] ∧ ∃ rest, name = parent ++ '.' :: rest := by
  simpa using eq_append_of_mem_ancestorsOf h

/-- A dot is not passed over if what stands behind it is not a dot. The name is given from its end
backwards. -/
theorem mem_ancestorsOf {x : Text} (h : x.getLast? ≠ some '.') (c : Char) (front : Text) :
    (c :: front).reverse ∈ ancestorsOf (x ++ '.' :: c :: front) := by
  by_cases hx : '.' ∈ x
  · obtain ⟨a, b, rfl, ha⟩ := List.eq_append_cons_of_mem hx
    cases b with
    | nil => simp at h
    | cons d b =>
        have hb : b.getLast? ≠ some '.' := by
          intro hb
          apply h
          cases b with
          | nil => cases hb
          | cons e b => simpa [List.getLast?_cons_cons] using hb
        have hlength : b.length < (a ++ '.' :: d :: b).length := by
          simp only [List.length_append, List.length_cons]
          omega
        rw [List.append_assoc, List.cons_append, List.cons_append,
          ancestorsOf_eq_cons (dropWhile_dot ha _)]
        exact List.mem_cons_of_mem _ (mem_ancestorsOf hb c front)
  · rw [ancestorsOf_eq_cons (dropWhile_dot hx _)]
    exact List.mem_cons_self
termination_by x.length

/-- A beginning before a single dot is an ancestor. -/
theorem mem_ancestors {parent rest : Text} (hparent : parent ≠ []) (hrest : rest.head? ≠ some '.') :
    parent ∈ ancestors (parent ++ '.' :: rest) := by
  obtain ⟨front, c, rfl⟩ : ∃ front c, parent = front ++ [c] :=
    ⟨parent.dropLast, parent.getLast hparent, (List.dropLast_concat_getLast hparent).symm⟩
  have hlast : rest.reverse.getLast? ≠ some '.' := by rwa [List.getLast?_reverse]
  have hmem := mem_ancestorsOf hlast c front.reverse
  have hname : (front ++ [c] ++ '.' :: rest).reverse =
      rest.reverse ++ '.' :: c :: front.reverse := by
    simp
  rw [ancestors, hname]
  simpa using hmem

/-- Nearer ancestors have longer names. -/
theorem pairwise_ancestorsOf (reversed : Text) :
    (ancestorsOf reversed).Pairwise (fun nearer further => further.length < nearer.length) := by
  fun_induction ancestorsOf reversed with
  | case1 => exact List.Pairwise.nil
  | case2 => exact List.Pairwise.nil
  | case3 reversed d c front hd ih =>
      refine List.Pairwise.cons ?_ ih
      intro parent h
      have hlength := length_lt_of_mem_ancestorsOf h
      simp only [List.length_reverse, List.length_cons]
      omega

/-! ## Known loggers -/

theorem chain_eq_cons {known : List Text} {name parent : Text}
    (h : (ancestors name).find? known.contains = some parent) :
    chain known name = parent :: chain known parent := by
  rw [chain]
  split
  · rename_i hnone
    rw [h] at hnone
    cases hnone
  · rename_i hsome
    rw [h] at hsome
    cases hsome
    rfl

/-- Every logger of a chain is known, and its name is a beginning of the name before a dot. -/
theorem of_mem_chain {known : List Text} {name parent : Text} (h : parent ∈ chain known name) :
    parent ∈ known ∧ parent ≠ [] ∧ ∃ rest, name = parent ++ '.' :: rest := by
  fun_induction chain known name with
  | case1 => simp at h
  | case2 name nearest hfind ih =>
      obtain ⟨-, rest, hname⟩ := eq_append_of_mem_ancestors (List.mem_of_find?_eq_some hfind)
      rcases List.mem_cons.1 h with rfl | h
      · have hmem := eq_append_of_mem_ancestors (List.mem_of_find?_eq_some hfind)
        exact ⟨by simpa using List.find?_some hfind, hmem⟩
      · obtain ⟨hknown, hne, rest', hnearest⟩ := ih h
        exact ⟨hknown, hne, rest' ++ '.' :: rest, by rw [hname, hnearest]; simp⟩

theorem length_lt_of_mem_chain {known : List Text} {name parent : Text}
    (h : parent ∈ chain known name) : parent.length < name.length := by
  obtain ⟨-, -, rest, rfl⟩ := of_mem_chain h
  simp only [List.length_append, List.length_cons]
  omega

theorem pairwise_chain (known : List Text) (name : Text) :
    (chain known name).Pairwise (fun nearer further => further.length < nearer.length) := by
  fun_induction chain known name with
  | case1 => exact List.Pairwise.nil
  | case2 name nearest hfind ih =>
      refine List.Pairwise.cons ?_ ih
      intro further h
      exact length_lt_of_mem_chain h

/-- The way from a logger to the root leads to ever shorter names. -/
theorem pairwise_way (known : List Text) (name : Text) :
    (name :: chain known name).Pairwise (fun nearer further => further.length < nearer.length) :=
  List.Pairwise.cons (fun _ h => length_lt_of_mem_chain h) (pairwise_chain known name)

/-- Of two beginnings before a dot, the shorter one is such a beginning of the longer one. -/
theorem eq_append_of_length_lt {parent nearest rest rest' : Text}
    (h : parent ++ '.' :: rest = nearest ++ '.' :: rest')
    (hlength : parent.length < nearest.length) :
    ∃ between, nearest = parent ++ '.' :: between ∧ rest = between ++ '.' :: rest' := by
  obtain ⟨a, ha, hb⟩ | ⟨a, ha, -⟩ := List.append_eq_append_iff.1 h
  · cases a with
    | nil => simp_all
    | cons d between =>
        simp only [List.cons_append, List.cons.injEq] at hb
        exact ⟨between, by rw [ha, hb.1], hb.2⟩
  · rw [ha, List.length_append] at hlength
    omega

theorem eq_or_length_lt_of_find? {known : List Text} {name parent nearest : Text}
    (hfind : (ancestors name).find? known.contains = some nearest) (hknown : parent ∈ known)
    (h : parent ∈ ancestors name) : parent = nearest ∨ parent.length < nearest.length := by
  obtain ⟨-, before, after, hancestors, hbefore⟩ := List.find?_eq_some_iff_append.1 hfind
  have hpairwise := pairwise_ancestorsOf name.reverse
  rw [← ancestors, hancestors] at hpairwise
  rw [hancestors] at h
  rcases List.mem_append.1 h with h | h
  · have hunknown := hbefore parent h
    simp_all
  · refine (List.mem_cons.1 h).imp_right fun hafter => ?_
    exact (List.pairwise_cons.1 (List.pairwise_append.1 hpairwise).2.1).1 parent hafter

/-- A known logger is found if a single dot stands behind its name. -/
theorem mem_chain {known : List Text} {parent rest : Text} (hknown : parent ∈ known)
    (hparent : parent ≠ []) (hrest : rest.head? ≠ some '.') :
    parent ∈ chain known (parent ++ '.' :: rest) := by
  have hmem := mem_ancestors hparent hrest
  cases hfind : (ancestors (parent ++ '.' :: rest)).find? known.contains with
  | none => exact absurd (List.contains_iff_mem.2 hknown) (List.find?_eq_none.1 hfind parent hmem)
  | some nearest =>
      rw [chain_eq_cons hfind]
      obtain rfl | hlonger := eq_or_length_lt_of_find? hfind hknown hmem
      · exact List.mem_cons_self
      -- What is found first is longer, and the single dot stands behind the parent there as well.
      obtain ⟨-, rest', hname⟩ := eq_append_of_mem_ancestors (List.mem_of_find?_eq_some hfind)
      obtain ⟨between, rfl, hbetween⟩ := eq_append_of_length_lt hname hlonger
      have hhead : between.head? ≠ some '.' := by
        cases between with
        | nil => simp
        | cons c between => simpa [hbetween] using hrest
      have hlength : between.length < rest.length := by
        rw [hbetween, List.length_append, List.length_cons]
        omega
      exact List.mem_cons_of_mem _ (mem_chain hknown hparent hhead)
termination_by rest.length

/-- Whether a name has no two dots side by side. -/
def IsRegular (name : Text) : Prop :=
  ¬['.', '.'] <:+: name

theorem IsRegular.of_append {a b : Text} (h : IsRegular (a ++ b)) : IsRegular a :=
  fun hdots => h (hdots.trans (List.prefix_append a b).isInfix)

end Phrasebook.Log
