import Phrasebook.Number.Numeral
import Phrasebook.Value.Basic

/-!
# The integer of a value

A selector counts with any value that can be read as an integer: truth values, integers,
floats with their fraction cut off, and written numerals. An infinite float is an error
rather than no integer, since it is a number that no integer can be near to.
-/

namespace Phrasebook.Value

/-- What a value is as an integer. -/
inductive AsInteger
  | integer (n : Int)
  | none
  | infinite
deriving DecidableEq

/-- The reading of a numeral as an integer. -/
def AsInteger.ofOption : Option Int → AsInteger
  | some n => .integer n
  | Option.none => .none

/-- Read a value as an integer. -/
def asInteger : Value → AsInteger
  | .boolean b => .integer (ofBool b)
  | .integer n => .integer n
  | .float (.finite negative mantissa exponent) =>
    .integer (Binary64.truncate negative mantissa exponent)
  | .float (.infinity _) => .infinite
  | .text s => .ofOption (Numeral.ofText? s)
  | .bytes b => .ofOption (Numeral.ofBytes? b)
  | _ => .none

@[simp] theorem asInteger_integer (n : Int) : asInteger (.integer n) = .integer n := rfl

@[simp] theorem asInteger_null : asInteger .null = .none := rfl

end Phrasebook.Value
