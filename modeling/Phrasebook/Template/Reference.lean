import Phrasebook.Number.Numeral
import Phrasebook.Platform
import Phrasebook.Template.Error
import Phrasebook.Text.Blank

/-!
# References to arguments

A reference that starts with a decimal numeral, after blanks and a plus sign if need be,
stands for the argument at that position; whatever follows the digits is not looked at.
Every other reference is the name of a property of the first argument: of an entry if that is
a mapping, and of an attribute if not.
-/

namespace Phrasebook.Template

/-- What a reference stands for. -/
inductive Reference
  /-- The argument whose position these ASCII digits write. -/
  | position (digits : Text)
  /-- The property of the first argument that has this name. -/
  | property (name : Text)
deriving DecidableEq

/-- Drop a plus sign. -/
def dropPlus : Text → Text
  | '+' :: rest => rest
  | s => s

/-- Read a reference. -/
def Reference.ofText (s : Text) : Reference :=
  match (dropPlus (s.dropWhile Text.isAsciiBlank)).takeWhile Char.isDigit with
  | [] => .property s
  | digits => .position digits

/-- The position that digits write. -/
def positionOf (digits : Text) : Nat :=
  Numeral.value (digits.map fun c => c.toNat - 48)

/-- The property of a value by name: an entry of a mapping or an attribute of any other value.
A null has none. -/
def property? [Platform] : Value → Text → Option Value
  | .null, _ => none
  | .mapping entries, name => Dict.get? entries name
  | v, name => Platform.attribute? v name

/-- The value of a reference; what is missing is null. -/
def Reference.value [Platform] (args : List Value) : Reference → Except FormatError Value
  | .position digits =>
    if digits.length ≤ Numeral.maxDigits then .ok (args[positionOf digits]?.getD .null)
    else .error (.numeralTooLong digits.length)
  | .property name =>
    match args with
    | [] => .ok .null
    | first :: _ => .ok ((property? first name).getD .null)

/-- The value that a reference text stands for. -/
def resolve [Platform] (reference : Text) (args : List Value) : Except FormatError Value :=
  (Reference.ofText reference).value args

end Phrasebook.Template
