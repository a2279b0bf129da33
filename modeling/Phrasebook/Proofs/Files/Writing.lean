import Phrasebook.Files.Tree
import Phrasebook.Proofs.Dict

/-!
# Files written into a tree

Writing a file into a directory that is there makes the file, and a directory that was made is
found. Both rest on what a walk passes: it enters directories only, and so no part of a path leads
out of a file.
-/

namespace Phrasebook.Tree

variable {α : Type} {t u : Tree α} {place place' : Place} {path part : Text}

/-! ## What a walk passes -/

/-- Whether there is something at a place, and directories on the whole way to it. -/
def IsReached (t : Tree α) : Place → Prop
  | .outside => True
  | .inside parts =>
    (t.node? parts).isSome ∧
      ∀ front, front <+: parts → front ≠ parts → t.node? front = some .directory

theorem dropLast_ne_self {parts : List Text} (h : parts ≠ []) : parts.dropLast ≠ parts := by
  intro heq
  have hlength := congrArg List.length heq
  have hpos := List.length_pos_iff.2 h
  rw [List.length_dropLast] at hlength
  omega

/-- A step that succeeds leads out of a directory, and into what is there. -/
theorem enter_inside {parts : List Text} (h : t.enter (.inside parts) part = .ok place) :
    t.node? parts = some .directory ∧
      (part = parent ∧ place = (if parts.isEmpty then .outside else .inside parts.dropLast) ∨
        part ≠ parent ∧ bytes part ≤ maxPartBytes ∧ (t.node? (parts ++ [part])).isSome ∧
          place = .inside (parts ++ [part])) := by
  rw [enter] at h
  split at h
  · cases h
  · cases h
  · rename_i hnode
    refine ⟨hnode, ?_⟩
    split at h
    · rename_i hparent
      exact .inl ⟨hparent, (Except.ok.inj h).symm⟩
    · rename_i hparent
      split at h
      · cases h
      · rename_i hbytes
        split at h
        · rename_i hsome
          exact .inr ⟨hparent, Nat.le_of_not_lt hbytes, hsome, (Except.ok.inj h).symm⟩
        · cases h

theorem enter_outside (h : t.enter .outside part = .ok place) : place = .outside := by
  rw [enter] at h
  split at h
  · exact (Except.ok.inj h).symm
  · split at h <;> cases h

theorem isReached_start (t : Tree α) (path : Text) : t.IsReached (start path) := by
  unfold start
  split
  · refine ⟨rfl, ?_⟩
    intro front hfront hne
    exact absurd (List.prefix_nil.1 hfront) hne
  · exact trivial

theorem IsReached.enter (hplace : t.IsReached place) (h : t.enter place part = .ok place') :
    t.IsReached place' := by
  cases place with
  | outside =>
      rw [enter_outside h]
      exact trivial
  | inside parts =>
      obtain ⟨hdirectory, ⟨-, rfl⟩ | ⟨-, -, hsome, rfl⟩⟩ := enter_inside h
      · split
        · exact trivial
        · rename_i hparts
          have hne : parts ≠ [] := by simpa using hparts
          have hshorter : parts.dropLast ≠ parts := dropLast_ne_self hne
          have hprefix : parts.dropLast <+: parts := List.dropLast_prefix parts
          refine ⟨by rw [hplace.2 _ hprefix hshorter]; rfl, fun front hfront hlt => ?_⟩
          refine hplace.2 front (hfront.trans hprefix) ?_
          rintro rfl
          exact hlt (hfront.eq_of_length_le (by rw [List.length_dropLast]; omega))
      · refine ⟨hsome, fun front hfront hlt => ?_⟩
        have hprefix : front <+: parts := by
          rcases List.prefix_concat_iff.1 hfront with heq | hprefix
          · exact absurd heq hlt
          · exact hprefix
        by_cases heq : front = parts
        · rw [heq, hdirectory]
        · exact hplace.2 front hprefix heq

theorem IsReached.walk (hplace : t.IsReached place) {parts : List Text}
    (h : t.walk place parts = .ok place') : t.IsReached place' := by
  induction parts generalizing place with
  | nil =>
      cases h
      exact hplace
  | cons part rest ih =>
      rw [Tree.walk] at h
      split at h
      · cases h
      · rename_i next hnext
        exact ih (hplace.enter hnext) h

theorem walk_append (t : Tree α) (place : Place) (front rest : List Text) :
    t.walk place (front ++ rest) = (t.walk place front).bind (t.walk · rest) := by
  induction front generalizing place with
  | nil => rfl
  | cons part front ih =>
      rw [List.cons_append, walk, walk]
      cases t.enter place part with
      | error obstacle => rfl
      | ok next => exact ih next

theorem walk_singleton (t : Tree α) (place : Place) (part : Text) :
    t.walk place [part] = t.enter place part := by
  rw [walk]
  cases t.enter place part <;> rfl

/-- Nothing is made on a way that can be walked. -/
theorem makeWay_of_walk {parts : List Text} (h : t.walk place parts = .ok place') :
    t.makeWay place parts = (t, place') := by
  induction parts generalizing place with
  | nil =>
      cases h
      rfl
  | cons part rest ih =>
      rw [walk] at h
      split at h
      · cases h
      · rename_i next hnext
        rw [makeWay.eq_def]
        simp only [hnext]
        exact ih h

/-! ## Files that are there -/

/-- What stands behind the content of a file. -/
theorem content_eq_ok_iff {content : α} : t.content path = .ok content ↔
    ∃ parts, t.locate path = .ok (.inside parts) ∧ t.node? parts = some (.file content) := by
  unfold Tree.content
  split
  · simp_all
  · simp_all
  · rename_i parts hlocate
    cases hnode : t.node? parts with
    | none => simp_all
    | some node => cases node <;> simp_all

theorem walk_of_locate (h : t.locate path = .ok place) :
    t.walk (start path) (Path.parts path) = .ok place := by
  rw [locate] at h
  split at h
  · cases h
  · split at h
    · cases h
    · exact h

/-! ## Writing -/

theorem write_of_walk {front directory : List Text} {name : Text}
    (hparts : Path.parts path = front ++ [name])
    (hfront : t.walk (start path) front = .ok (.inside directory)) (content : α) :
    t.write path content = ⟨t.nodes.put (directory ++ [name]) (.file content)⟩ := by
  rw [write]
  simp only [hparts, List.dropLast_concat, List.getLast?_concat, makeWay_of_walk hfront]

theorem node?_put (t : Tree α) {key : List Text} (hkey : key ≠ []) (node : Node α)
    (parts : List Text) : (Tree.mk (t.nodes.put key node)).node? parts =
      if parts = key then some node else t.node? parts := by
  cases parts with
  | nil => simp [node?, Ne.symm hkey]
  | cons first rest =>
      have hne : (first :: rest).isEmpty = false := rfl
      simp only [node?, hne, Bool.false_eq_true, if_false]
      exact Dict.get?_put t.nodes key (first :: rest) node

/-! ## Files that are made -/

/-- Walks find what they found before if nothing is taken away. -/
theorem walk_mono (h : ∀ parts node, t.node? parts = some node → u.node? parts = some node)
    {parts : List Text} (hwalk : t.walk place parts = .ok place') :
    u.walk place parts = .ok place' := by
  induction parts generalizing place with
  | nil => exact hwalk
  | cons part rest ih =>
      rw [walk] at hwalk
      split at hwalk
      · cases hwalk
      · rename_i next hnext
        have henter : u.enter place part = .ok next := by
          cases place with
          | outside => exact hnext
          | inside above =>
              obtain ⟨hdirectory, ⟨hparent, rfl⟩ | ⟨hparent, hbytes, hsome, rfl⟩⟩ :=
                enter_inside hnext
              · simp only [enter, h _ _ hdirectory, hparent, if_true]
              · obtain ⟨node, hnode⟩ := Option.isSome_iff_exists.1 hsome
                simp [enter, h _ _ hdirectory, hparent, h _ _ hnode, Nat.not_lt.2 hbytes]
        rw [walk, henter]
        exact ih hwalk

theorem enter_missing {parts : List Text} (hthere : t.IsReached (.inside parts))
    (h : t.enter (.inside parts) part = .error .missing) :
    t.node? parts = some .directory ∧ part ≠ parent ∧ bytes part ≤ maxPartBytes ∧
      t.node? (parts ++ [part]) = none := by
  obtain ⟨node, hnode⟩ := Option.isSome_iff_exists.1 hthere.1
  rw [enter] at h
  cases node with
  | file content => simp [hnode] at h
  | directory =>
      simp only [hnode] at h
      split at h
      · cases h
      · rename_i hparent
        split at h
        · cases h
        · rename_i hbytes
          split at h
          · cases h
          · rename_i hnone
            exact ⟨hnode, hparent, Nat.le_of_not_lt hbytes, by simpa using hnone⟩

/-- What is put where something is missing from a directory is found there. -/
theorem locate_put_of_missing {front directory : List Text} {name : Text}
    (hparts : Path.parts path = front ++ [name])
    (hfront : t.walk (start path) front = .ok (.inside directory))
    (hmissing : t.locate path = .error .missing) (node : Node α) :
    (Tree.mk (t.nodes.put (directory ++ [name]) node)).locate path =
      .ok (.inside (directory ++ [name])) := by
  rw [locate] at hmissing
  split at hmissing
  · cases hmissing
  rename_i hnull
  split at hmissing
  · cases hmissing
  rename_i hlength
  rw [hparts, walk_append, hfront, Except.bind, walk_singleton] at hmissing
  obtain ⟨hdirectory, hparent, hbytes, hnone⟩ :=
    enter_missing ((isReached_start t path).walk hfront) hmissing
  have hnode := node?_put t (show directory ++ [name] ≠ [] by simp) node
  have hkept : ∀ parts there, t.node? parts = some there →
      (Tree.mk (t.nodes.put (directory ++ [name]) node)).node? parts = some there := by
    intro parts there h
    rw [hnode, if_neg, h]
    rintro rfl
    rw [hnone] at h
    cases h
  rw [locate, if_neg hnull, if_neg hlength, hparts, walk_append, walk_mono hkept hfront,
    Except.bind, walk_singleton]
  simp [enter, hkept _ _ hdirectory, hparent, hnode, Nat.not_lt.2 hbytes]

/-- A file that is missing from a directory that is there can be written. -/
theorem content_write_of_missing {front directory : List Text} {name : Text}
    (hparts : Path.parts path = front ++ [name])
    (hfront : t.walk (start path) front = .ok (.inside directory))
    (hmissing : t.locate path = .error .missing) (new : α) :
    (t.write path new).content path = .ok new := by
  rw [write_of_walk hparts hfront new, content_eq_ok_iff]
  refine ⟨directory ++ [name], locate_put_of_missing hparts hfront hmissing _, ?_⟩
  rw [node?_put t (by simp), if_pos rfl]

/-- A directory that was made or was there is found, unless its path leads out of the tree. -/
theorem locate_makeDirectory (h : t.makeDirectory path = .ok u)
    (hinside : t.locate path ≠ .ok .outside) : ∃ parts, u.locate path = .ok (.inside parts) := by
  rw [makeDirectory] at h
  split at h
  · rename_i parts hlocate
    split at h
    · cases h
    · cases h
      exact ⟨parts, hlocate⟩
  · rename_i houtside
    exact absurd houtside hinside
  · rename_i obstacle hmissing
    simp only at h
    split at h
    · rename_i directory name hwalk hlast
      cases h
      obtain ⟨front, hparts⟩ := List.getLast?_eq_some_iff.1 hlast
      rw [hparts, List.dropLast_concat] at hwalk
      exact ⟨_, locate_put_of_missing hparts hwalk hmissing _⟩
    · cases h

end Phrasebook.Tree
