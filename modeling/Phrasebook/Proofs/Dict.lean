import Phrasebook.Dict

/-!
# Pairs put into dictionaries

Putting pairs one after the other keeps every key at its first place and gives it its last
value. Both facts are stated for merging into any dictionary without repeated keys, and putting a
pair brings no repeated key about.
-/

namespace Phrasebook.Dict

variable {κ α β : Type}

theorem mem_of_lookup [BEq κ] [LawfulBEq κ] {entries : List (κ × α)} {key : κ} {value : α}
    (h : entries.lookup key = some value) : (key, value) ∈ entries := by
  obtain ⟨before, after, heq, -⟩ := List.lookup_eq_some_iff.1 h
  rw [heq]
  exact List.mem_append_right before List.mem_cons_self

/-! ## First places -/

section FirstPlaces

variable [BEq κ] [LawfulBEq κ]

theorem eraseDups_of_nodup {keys : List κ} (h : keys.Nodup) : keys.eraseDups = keys := by
  induction keys with
  | nil => rfl
  | cons key rest ih =>
      obtain ⟨hkey, hrest⟩ := List.nodup_cons.1 h
      have hfilter : rest.filter (fun k => !k == key) = rest := by
        rw [List.filter_eq_self]
        intro k hk
        have hne : k ≠ key := fun heq => hkey (heq ▸ hk)
        simpa using hne
      rw [List.eraseDups_cons, hfilter, ih hrest]

theorem eraseDups_append_cons_of_mem {a b : List κ} {key : κ} (h : key ∈ a) :
    (a ++ key :: b).eraseDups = (a ++ b).eraseDups := by
  rw [List.eraseDups_append, List.eraseDups_append, List.cons_removeAll]
  simp [h]

theorem filter_eraseDups (p : κ → Bool) (keys : List κ) :
    keys.eraseDups.filter p = (keys.filter p).eraseDups := by
  match keys with
  | [] => rfl
  | key :: rest =>
      have : (rest.filter (fun k => !k == key)).length < rest.length + 1 :=
        Nat.lt_succ_of_le (List.length_filter_le _ rest)
      rw [List.eraseDups_cons, List.filter_cons, List.filter_cons,
        filter_eraseDups p (rest.filter _)]
      split
      · rw [List.eraseDups_cons, List.filter_filter, List.filter_filter]
        simp only [Bool.and_comm]
      · rename_i hkey
        rw [List.filter_filter]
        congr 1
        apply List.filter_congr
        intro k _
        cases hk : p k with
        | false => rfl
        | true =>
            have hne : k ≠ key := fun heq => hkey (heq ▸ hk)
            simpa using hne
termination_by keys.length

theorem nodup_eraseDups (keys : List κ) : keys.eraseDups.Nodup := by
  match keys with
  | [] => exact List.nodup_nil
  | key :: rest =>
      have : (rest.filter (fun k => !k == key)).length < rest.length + 1 :=
        Nat.lt_succ_of_le (List.length_filter_le _ rest)
      rw [List.eraseDups_cons, List.nodup_cons]
      exact ⟨by simp [List.mem_eraseDups], nodup_eraseDups (rest.filter _)⟩
termination_by keys.length

/-- A repetition may be dropped early. -/
theorem eraseDups_append_eraseDups (a b : List κ) :
    (a.eraseDups ++ b.eraseDups).eraseDups = (a ++ b).eraseDups := by
  have hremove : b.removeAll a.eraseDups = b.removeAll a := by
    apply List.filter_congr
    intro k _
    simp [List.mem_eraseDups]
  rw [List.eraseDups_append, List.eraseDups_append, eraseDups_of_nodup (nodup_eraseDups a),
    List.removeAll, filter_eraseDups, eraseDups_of_nodup (nodup_eraseDups _), ← List.removeAll,
    hremove]

end FirstPlaces

theorem keys_cons (key : κ) (value : α) (rest : Dict κ α) :
    keys ((key, value) :: rest) = key :: keys rest := rfl

theorem nodup_keys_nil : (keys ([] : Dict κ α)).Nodup := List.nodup_nil

theorem keys_append (a b : Dict κ α) : keys (a ++ b) = a.keys ++ b.keys :=
  List.map_append

variable [DecidableEq κ]

/-! ## Last values -/

theorem get?_put (d : Dict κ α) (key other : κ) (value : α) :
    (d.put key value).get? other = if other = key then some value else d.get? other := by
  by_cases h : other = key
  · subst h
    rw [get?_put_self, if_pos rfl]
  · rw [get?_put_of_ne d h, if_neg h]

theorem get?_append (a b : Dict κ α) (key : κ) :
    get? (a ++ b) key = (a.get? key).or (b.get? key) := by
  induction a with
  | nil => rfl
  | cons entry rest ih =>
      obtain ⟨k, v⟩ := entry
      by_cases h : k = key
      · simp [get?, h]
      · simpa [get?, h] using ih

theorem get?_eq_none_iff {d : Dict κ α} {key : κ} : d.get? key = none ↔ key ∉ d.keys := by
  induction d with
  | nil => simp [get?, keys]
  | cons entry rest ih =>
      obtain ⟨k, v⟩ := entry
      by_cases h : k = key
      · simp [get?, keys, h]
      · simpa [get?, keys, h, Ne.symm h] using ih

/-- A new key goes to the end. -/
theorem put_of_get?_eq_none {d : Dict κ α} {key : κ} (h : d.get? key = none) (value : α) :
    d.put key value = d ++ [(key, value)] := by
  induction d with
  | nil => rfl
  | cons entry rest ih =>
      obtain ⟨k, v⟩ := entry
      rw [get?] at h
      split at h
      · cases h
      · rename_i hne
        rw [put, if_neg hne, ih h, List.cons_append]

/-- The last pair of a key decides its value. -/
theorem get?_merge (d delta : Dict κ α) (key : κ) :
    (d.merge delta).get? key = (get? delta.reverse key).or (d.get? key) := by
  induction delta generalizing d with
  | nil => rfl
  | cons entry rest ih =>
      obtain ⟨k, v⟩ := entry
      rw [merge_cons, ih, List.reverse_cons, get?_append, Option.or_assoc]
      congr 1
      by_cases h : k = key
      · subst h
        rw [get?_put_self]
        simp [get?]
      · rw [get?_put_of_ne d (Ne.symm h)]
        simp [get?, h]

theorem get?_ofPairs (pairs : List (κ × α)) (key : κ) :
    (ofPairs pairs).get? key = get? pairs.reverse key :=
  (get?_merge [] pairs key).trans Option.or_none

/-- Without repeated keys the last value of a key is the only one. -/
theorem get?_reverse {d : Dict κ α} (h : d.keys.Nodup) (key : κ) :
    get? d.reverse key = d.get? key := by
  induction d with
  | nil => rfl
  | cons entry rest ih =>
      obtain ⟨k, v⟩ := entry
      obtain ⟨hk, hrest⟩ := List.nodup_cons.1 h
      rw [List.reverse_cons, get?_append, ih hrest]
      by_cases hkey : k = key
      · subst hkey
        rw [get?_eq_none_iff.2 hk]
        simp [get?]
      · simp [get?, hkey]

/-! ## Merging what is there already -/

/-- Putting the value that a key has changes nothing. -/
theorem put_of_get?_eq_some {d : Dict κ α} {key : κ} {value : α} (h : d.get? key = some value) :
    d.put key value = d := by
  induction d with
  | nil => cases h
  | cons entry rest ih =>
      obtain ⟨k, v⟩ := entry
      rw [get?] at h
      split at h
      · rename_i hkey
        cases h
        rw [put, if_pos hkey, hkey]
      · rename_i hne
        rw [put, if_neg hne, ih h]

theorem mem_of_get? {d : Dict κ α} {key : κ} {value : α} (h : d.get? key = some value) :
    (key, value) ∈ d := by
  induction d with
  | nil => cases h
  | cons entry rest ih =>
      obtain ⟨k, v⟩ := entry
      rw [get?] at h
      split at h
      · rename_i hkey
        cases h
        exact hkey ▸ List.mem_cons_self
      · exact List.mem_cons_of_mem _ (ih h)

theorem get?_of_mem {d : Dict κ α} (hnodup : d.keys.Nodup) {key : κ} {value : α}
    (h : (key, value) ∈ d) : d.get? key = some value := by
  induction d with
  | nil => cases h
  | cons entry rest ih =>
      obtain ⟨k, v⟩ := entry
      obtain ⟨hk, hrest⟩ := List.nodup_cons.1 hnodup
      rcases List.mem_cons.1 h with heq | hmem
      · cases heq
        exact if_pos rfl
      · have hne : k ≠ key := by
          rintro rfl
          exact hk (List.mem_map.2 ⟨_, hmem, rfl⟩)
        rw [get?, if_neg hne]
        exact ih hrest hmem

theorem merge_of_mem {d delta : Dict κ α}
    (h : ∀ key value, (key, value) ∈ delta → d.get? key = some value) : d.merge delta = d := by
  induction delta with
  | nil => rfl
  | cons entry rest ih =>
      obtain ⟨k, v⟩ := entry
      rw [merge_cons, put_of_get?_eq_some (h k v List.mem_cons_self)]
      apply ih
      intro key value hmem
      exact h key value (List.mem_cons_of_mem _ hmem)

/-- A dictionary merged into itself stays as it is. -/
theorem merge_self {d : Dict κ α} (h : d.keys.Nodup) : d.merge d = d :=
  merge_of_mem fun _ _ hmem => get?_of_mem h hmem

/-- Entries with new keys go to the end. -/
theorem merge_eq_append {d delta : Dict κ α} (h : (d ++ delta).keys.Nodup) :
    d.merge delta = d ++ delta := by
  induction delta generalizing d with
  | nil => exact (List.append_nil d).symm
  | cons entry rest ih =>
      obtain ⟨k, v⟩ := entry
      have hnew : d.get? k = none := by
        rw [get?_eq_none_iff]
        intro hk
        rw [keys_append] at h
        exact (List.nodup_append.1 h).2.2 k hk k List.mem_cons_self rfl
      rw [merge_cons, put_of_get?_eq_none hnew, ih]
      · rw [List.append_assoc, List.singleton_append]
      · rw [List.append_assoc, List.singleton_append]
        exact h

theorem ofPairs_of_nodup {d : Dict κ α} (h : d.keys.Nodup) : ofPairs d = d :=
  merge_eq_append h

/-! ## Keys -/

theorem nodup_keys_put {d : Dict κ α} (h : d.keys.Nodup) (key : κ) (value : α) :
    (d.put key value).keys.Nodup := by
  rw [keys_put]
  split
  · exact h
  · rename_i hkey
    rw [List.nodup_append]
    refine ⟨h, List.pairwise_singleton _ key, ?_⟩
    rintro k hk other hother rfl
    exact hkey (List.mem_singleton.1 hother ▸ hk)

variable [BEq κ] [LawfulBEq κ]

/-- A key keeps its first place, and new keys go to the end. -/
theorem keys_merge {d : Dict κ α} (h : d.keys.Nodup) (delta : Dict κ α) :
    (d.merge delta).keys = (d.keys ++ delta.keys).eraseDups := by
  induction delta generalizing d with
  | nil => rw [merge_nil, show keys ([] : Dict κ α) = [] from rfl, List.append_nil,
      eraseDups_of_nodup h]
  | cons entry rest ih =>
      obtain ⟨k, v⟩ := entry
      rw [merge_cons, ih (nodup_keys_put h k v), keys_put, keys_cons]
      split
      · rename_i hmem
        rw [eraseDups_append_cons_of_mem hmem]
      · rw [List.append_assoc, List.singleton_append]

theorem keys_ofPairs (pairs : List (κ × α)) : (ofPairs pairs).keys = (keys pairs).eraseDups :=
  keys_merge nodup_keys_nil pairs

end Phrasebook.Dict
