/-!
# Dictionaries in order of insertion

A dictionary is a list of keys with their values. Putting a key that is already there
replaces its value and keeps its place; a new key goes to the end. Merging puts the entries
of one dictionary into another in their order.
-/

namespace Phrasebook

/-- Keys with their values, in the order in which the keys first came. -/
abbrev Dict (κ α : Type) := List (κ × α)

namespace Dict

variable {κ α : Type} [DecidableEq κ]

/-- The value of a key. -/
def get? : Dict κ α → κ → Option α
  | [], _ => none
  | (k, v) :: rest, key => if k = key then some v else get? rest key

/-- The keys, in order. -/
def keys (d : Dict κ α) : List κ :=
  d.map Prod.fst

/-- Give a key a value. -/
def put : Dict κ α → κ → α → Dict κ α
  | [], key, value => [(key, value)]
  | (k, v) :: rest, key, value =>
    if k = key then (key, value) :: rest else (k, v) :: put rest key value

/-- Put all entries of `delta`, in order. -/
def merge (d delta : Dict κ α) : Dict κ α :=
  delta.foldl (fun d (key, value) => d.put key value) d

/-- The dictionary that holds pairs put one after the other. -/
def ofPairs (pairs : List (κ × α)) : Dict κ α :=
  merge [] pairs

@[simp] theorem merge_nil (d : Dict κ α) : d.merge [] = d := rfl

@[simp] theorem merge_cons (d : Dict κ α) (key : κ) (value : α) (rest : Dict κ α) :
    d.merge ((key, value) :: rest) = (d.put key value).merge rest := rfl

theorem get?_put_self (d : Dict κ α) (key : κ) (value : α) :
    (d.put key value).get? key = some value := by
  induction d with
  | nil => simp [put, get?]
  | cons entry rest ih =>
    obtain ⟨k, v⟩ := entry
    by_cases h : k = key <;> simp [put, get?, h, ih]

theorem get?_put_of_ne (d : Dict κ α) {key other : κ} (h : other ≠ key) (value : α) :
    (d.put key value).get? other = d.get? other := by
  induction d with
  | nil => simp [put, get?, Ne.symm h]
  | cons entry rest ih =>
    obtain ⟨k, v⟩ := entry
    by_cases hk : k = key
    · simp [put, get?, hk, Ne.symm h]
    · simp [put, get?, hk, ih]

theorem keys_put (d : Dict κ α) (key : κ) (value : α) :
    (d.put key value).keys = if key ∈ d.keys then d.keys else d.keys ++ [key] := by
  induction d with
  | nil => simp [put, keys]
  | cons entry rest ih =>
    obtain ⟨k, v⟩ := entry
    by_cases h : k = key
    · simp [put, keys, h]
    · have ih' : (put rest key value).map Prod.fst =
          if key ∈ rest.map Prod.fst then rest.map Prod.fst else rest.map Prod.fst ++ [key] := ih
      by_cases hm : key ∈ rest.map Prod.fst
      · simp [put, keys, h, ih', hm]
      · simp [put, keys, h, ih', hm, Ne.symm h]

end Dict

end Phrasebook
