import Phrasebook.Value.Basic

/-!
# The platform

What the library takes as it is from the platform that it runs on. Everything that is said of
the library holds on every platform.
-/

namespace Phrasebook

/-- A platform. -/
class Platform where
  /-- The attribute of a value that has this name, if the value has one. -/
  attribute? : Value → Text → Option Value
  /-- How many containers of JSON can be open at a time before there is no stack left. -/
  maxDepth : Nat
  /-- A container that stands in no other one can be opened. -/
  maxDepth_pos : 0 < maxDepth
  /-- The character that half a pair of surrogates is read as. -/
  ofSurrogate : Nat → Char

/-- A platform on which the fields of objects and the parts of numbers are the only attributes
and a surrogate by itself is read as the replacement character. -/
instance Platform.plain : Platform where
  attribute? := Value.part?
  maxDepth := 1000
  maxDepth_pos := by decide
  ofSurrogate _ := Char.ofNat 0xFFFD

end Phrasebook
