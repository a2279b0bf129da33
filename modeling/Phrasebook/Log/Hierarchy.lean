import Phrasebook.Text.Basic

/-!
# The hierarchy of loggers

Loggers are named by parts with dots between them. The parent of a logger is the nearest
logger that is known among the beginnings of its name before a dot. A dot that directly
precedes the dot of a nearer beginning is passed over, and so is one at the very front.
-/

namespace Phrasebook.Log

/-- The beginnings of a name before its dots, the longest first. The name is given from its
end backwards. -/
def ancestorsOf (reversed : Text) : List Text :=
  match _h : reversed.dropWhile (· != '.') with
  | [] => []
  | [_] => []
  | _ :: c :: front => (c :: front).reverse :: ancestorsOf front
termination_by reversed.length
decreasing_by
  have := (List.dropWhile_sublist (· != '.') (l := reversed)).length_le
  rw [_h] at this
  simp only [List.length_cons] at this
  omega

/-- The names that a logger may have as its parent, the nearest first. -/
def ancestors (name : Text) : List Text :=
  ancestorsOf name.reverse

theorem length_lt_of_mem_ancestorsOf {reversed parent : Text}
    (h : parent ∈ ancestorsOf reversed) : parent.length < reversed.length := by
  fun_induction ancestorsOf reversed with
  | case1 => simp at h
  | case2 => simp at h
  | case3 reversed d c front hd ih =>
    have hlen := (List.dropWhile_sublist (· != '.') (l := reversed)).length_le
    rw [hd] at hlen
    simp only [List.length_cons] at hlen
    rcases List.mem_cons.1 h with rfl | h
    · simp only [List.length_reverse, List.length_cons]
      omega
    · have := ih h
      omega

theorem length_lt_of_mem_ancestors {name parent : Text} (h : parent ∈ ancestors name) :
    parent.length < name.length := by
  simpa using length_lt_of_mem_ancestorsOf h

/-- The known loggers above a name, the nearest first. -/
def chain (known : List Text) (name : Text) : List Text :=
  match _h : (ancestors name).find? known.contains with
  | none => []
  | some parent => parent :: chain known parent
termination_by name.length
decreasing_by exact length_lt_of_mem_ancestors (List.mem_of_find?_eq_some _h)

end Phrasebook.Log
