import Phrasebook.Value.Basic

/-!
# Values as keys

A mapping is asked for texts, but any value that cannot change may be looked for in vain. A
value that can change is no key, nor is a tuple that holds one.
-/

namespace Phrasebook.Value

mutual

/-- The kind of the first part of a value that cannot be looked for. -/
def unusable? : Value → Option Text
  | .list items => some (kind (.list items))
  | .mapping entries => some (kind (.mapping entries))
  | .object fields => some (kind (.object fields))
  | .tuple items => firstUnusable? items
  | _ => none

/-- The first kind of part among items that cannot be looked for. -/
def firstUnusable? : List Value → Option Text
  | [] => none
  | item :: rest =>
    match unusable? item with
    | some kind => some kind
    | none => firstUnusable? rest

end

@[simp] theorem unusable?_text (s : Text) : unusable? (.text s) = none := by
  simp [unusable?]

end Phrasebook.Value
