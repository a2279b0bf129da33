import Phrasebook.Text.Basic

/-!
# Classes of characters

A class is a list of ranges of code points, both ends included, in rising order. The
classes of the Unicode character database that this library needs are tables of this
form in the modules beside this one.
-/

namespace Phrasebook.Text

/-- Ranges of code points, both ends included. -/
abbrev CharClass := List (Nat × Nat)

/-- Whether a character lies in one of the ranges. -/
def CharClass.contains (ranges : CharClass) (c : Char) : Bool :=
  ranges.any fun (first, last) => first ≤ c.toNat && c.toNat ≤ last

theorem CharClass.contains_iff {ranges : CharClass} {c : Char} :
    ranges.contains c = true ↔ ∃ r ∈ ranges, r.1 ≤ c.toNat ∧ c.toNat ≤ r.2 := by
  simp [CharClass.contains]

end Phrasebook.Text
