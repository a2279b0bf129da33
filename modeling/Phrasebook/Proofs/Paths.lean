import Phrasebook.Path
import Phrasebook.Proofs.Text.Pieces

/-!
# The parts of paths that are put together

The parts of a path are found again when the path is normalised or when something is put inside it,
and such a path starts where the first one starts.
-/

namespace Phrasebook

namespace Path

/-! ## Parts -/

/-- Whether a text can be a part of a path. -/
def IsPart (name : Text) : Prop :=
  '/' ∉ name ∧ name ≠ [] ∧ name ≠ ['.']

theorem isPart_of_mem_parts {path part : Text} (h : part ∈ parts path) : IsPart part := by
  obtain ⟨hmem, hkept⟩ := List.mem_filter.1 h
  refine ⟨Text.not_mem_of_mem_splitOn hmem, ?_⟩
  simpa using hkept

theorem parts_of_isPart {name : Text} (h : IsPart name) : parts name = [name] := by
  obtain ⟨hslash, hne, hdot⟩ := h
  simp [parts, Text.splitOn_of_not_mem hslash, hne, hdot]

theorem parts_append_slash (a b : Text) : parts (a ++ '/' :: b) = parts a ++ parts b := by
  rw [parts, Text.splitOn_append_cons, List.filter_append]
  rfl

theorem parts_slash (b : Text) : parts ('/' :: b) = parts b :=
  parts_append_slash [] b

theorem parts_join_of_isPart {pieces : List Text} (h : ∀ piece ∈ pieces, IsPart piece) :
    parts (Text.join ['/'] pieces) = pieces := by
  induction pieces with
  | nil => rfl
  | cons piece rest ih =>
      have hpiece := h piece List.mem_cons_self
      have hrest := ih fun other hother => h other (List.mem_cons_of_mem _ hother)
      cases rest with
      | nil => exact parts_of_isPart hpiece
      | cons next rest =>
          rw [Text.join_cons_cons, List.append_assoc, List.singleton_append, parts_append_slash,
            parts_of_isPart hpiece, hrest, List.singleton_append]

theorem parts_root_append (path b : Text) : parts (root path ++ b) = parts b := by
  unfold root
  split
  · rfl
  · exact (parts_slash _).trans (parts_slash b)
  · exact parts_slash b

@[simp] theorem parts_normal (path : Text) : parts (normal path) = parts path := by
  have hparts : parts (root path ++ Text.join ['/'] (parts path)) = parts path := by
    rw [parts_root_append, parts_join_of_isPart fun _ => isPart_of_mem_parts]
  unfold normal
  split
  · rename_i hnil
    rw [hnil] at hparts
    exact hparts
  · exact hparts

theorem parts_join {b : Text} (a : Text) (h : b.head? ≠ some '/') :
    parts (join a b) = parts a ++ parts b := by
  rw [join, if_neg h]
  split
  · rename_i hend
    rcases List.eq_nil_or_concat a with rfl | ⟨front, c, rfl⟩
    · rfl
    · have hc : c = '/' := by simpa using hend
      rw [hc, List.concat_eq_append, List.append_assoc, List.singleton_append, parts_append_slash,
        parts_append_slash, show parts [] = [] from rfl, List.append_nil]
  · exact parts_append_slash a b

/-! ## Where paths start -/

theorem root_isEmpty_iff (path : Text) : (root path).isEmpty ↔ path.head? ≠ some '/' := by
  cases path with
  | nil => simp [root]
  | cons c rest =>
      by_cases h : c = '/'
      · subst h
        unfold root
        split <;> simp_all [isSlash]
      · simp [root, isSlash, h]

theorem normal_ne_nil (path : Text) : normal path ≠ [] := by
  unfold normal
  split
  · simp
  · assumption

theorem head?_normal_of_ne {path : Text} (h : path.head? ≠ some '/') :
    (normal path).head? ≠ some '/' := by
  have hroot : root path = [] := by simpa using (root_isEmpty_iff path).2 h
  rw [normal, hroot, List.nil_append]
  cases hparts : parts path with
  | nil => simp
  | cons first rest =>
      obtain ⟨hslash, hne, -⟩ := isPart_of_mem_parts (hparts ▸ List.mem_cons_self)
      cases first with
      | nil => exact absurd rfl hne
      | cons c first =>
          have hc : c ≠ '/' := fun heq => hslash (heq ▸ List.mem_cons_self)
          cases rest <;> simpa [Text.join] using hc

theorem head?_normal_of_eq {path : Text} (h : path.head? = some '/') :
    (normal path).head? = some '/' := by
  have hroot : root path = ['/', '/'] ∨ root path = ['/'] := by
    obtain ⟨rest, rfl⟩ := List.head?_eq_some_iff.1 h
    unfold root
    split <;> simp_all [isSlash]
  unfold normal
  rcases hroot with hroot | hroot <;> simp [hroot]

theorem head?_join {a : Text} (ha : a ≠ []) {b : Text} (hb : b.head? ≠ some '/') :
    (join a b).head? = a.head? := by
  obtain ⟨c, rest, rfl⟩ := List.exists_cons_of_ne_nil ha
  rw [join, if_neg hb]
  split <;> rfl

/-- A path inside a directory starts where the path of the directory starts. -/
theorem root_join_normal_isEmpty (directory : Text) {name : Text} (h : name.head? ≠ some '/') :
    (root (join (normal directory) name)).isEmpty = (root directory).isEmpty := by
  rw [Bool.eq_iff_iff, root_isEmpty_iff, root_isEmpty_iff, head?_join (normal_ne_nil directory) h]
  by_cases hslash : directory.head? = some '/'
  · simp [hslash, head?_normal_of_eq hslash]
  · simp [hslash, head?_normal_of_ne hslash]

end Path

end Phrasebook
