import Phrasebook.Dict
import Phrasebook.Number.Binary64

/-!
# Argument values

The values that a caller hands to a template, and the parts of them that have a name whatever
platform they live on: the fields of an object and the parts of a number.
-/

namespace Phrasebook

/-- A value that can fill a place in a template. -/
inductive Value
  | null
  | boolean (b : Bool)
  | integer (n : Int)
  | float (x : Binary64)
  | text (s : Text)
  | bytes (bytes : List UInt8)
  | list (items : List Value)
  | tuple (items : List Value)
  | mapping (entries : List (Text × Value))
  | object (fields : List (Text × Value))
  /-- A value of another kind, which only an attribute leads to: the name of its kind, and its
  text. -/
  | foreign (kind text : Text)

namespace Value

/-- The null value stands for everything that is missing. -/
instance : Inhabited Value := ⟨.null⟩

/-- The integer that a truth value counts as. -/
def ofBool (b : Bool) : Int :=
  if b then 1 else 0

/-- The integer that a value is, or that it counts as if it is a truth value. -/
def integer? : Value → Option Int
  | .boolean b => some (ofBool b)
  | .integer n => some n
  | _ => none

/-- The parts of an integer as a rational and as a complex number. -/
def integerPart? (n : Int) (name : Text) : Option Value :=
  if name = "real".toList ∨ name = "numerator".toList then some (.integer n)
  else if name = "imag".toList then some (.integer 0)
  else if name = "denominator".toList then some (.integer 1)
  else none

/-- The parts of a float as a complex number. -/
def floatPart? (x : Binary64) (name : Text) : Option Value :=
  if name = "real".toList then some (.float x)
  else if name = "imag".toList then some (.float (.zero false))
  else none

/-- The part of a value by name: a field of an object or a part of a number. -/
def part? : Value → Text → Option Value
  | .object fields, name => Dict.get? fields name
  | .boolean b, name => integerPart? (ofBool b) name
  | .integer n, name => integerPart? n name
  | .float x, name => floatPart? x name
  | _, _ => none

/-- Whether a value counts as nothing given: a null, false, a zero, or a value without parts. -/
def isEmpty : Value → Bool
  | .null => true
  | .boolean b => !b
  | .integer n => n == 0
  | .float (.finite _ mantissa _) => mantissa == 0
  | .float _ => false
  | .text s => s.isEmpty
  | .bytes b => b.isEmpty
  | .list items => items.isEmpty
  | .tuple items => items.isEmpty
  | .mapping entries => entries.isEmpty
  | .object _ => false
  | .foreign .. => false

@[simp] theorem isEmpty_text (s : Text) : isEmpty (.text s) = s.isEmpty := rfl

@[simp] theorem isEmpty_null : isEmpty .null = true := rfl

/-- The kind of a value, by the name that messages use for it. -/
def kind : Value → Text
  | .null => "NoneType".toList
  | .boolean _ => "bool".toList
  | .integer _ => "int".toList
  | .float _ => "float".toList
  | .text _ => "str".toList
  | .bytes _ => "bytes".toList
  | .list _ => "list".toList
  | .tuple _ => "tuple".toList
  | .mapping _ => "dict".toList
  | .object _ => "types.SimpleNamespace".toList
  | .foreign kind _ => kind

end Value

end Phrasebook
