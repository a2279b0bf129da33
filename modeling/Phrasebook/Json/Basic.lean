import Phrasebook.Dict
import Phrasebook.Text.Basic

/-!
# JSON values and faults

What a JSON text can hold, and what can be wrong with one. A number keeps its literal; a
resource file never needs its value. A fault comes with its position, counted in code
points from the start of the text and also by line and column.
-/

namespace Phrasebook

/-- A JSON value. -/
inductive Json
  | null
  | boolean (value : Bool)
  | number (literal : Text)
  | string (value : Text)
  | array (items : List Json)
  | object (members : List (Text × Json))

namespace Json

/-- What is wrong with a text that is not JSON. -/
inductive Fault
  | byteOrderMark
  | value
  | extraData
  | propertyName
  | colon
  | comma
  | unterminatedString
  | controlCharacter
  | escape
  | unicodeEscape
deriving DecidableEq

/-- The words for a fault. -/
def Fault.reason : Fault → Text
  | .byteOrderMark => "Unexpected UTF-8 BOM (decode using utf-8-sig)".toList
  | .value => "Expecting value".toList
  | .extraData => "Extra data".toList
  | .propertyName => "Expecting property name enclosed in double quotes".toList
  | .colon => "Expecting ':' delimiter".toList
  | .comma => "Expecting ',' delimiter".toList
  | .unterminatedString => "Unterminated string starting at".toList
  | .controlCharacter => "Invalid control character at".toList
  | .escape => "Invalid \\escape".toList
  | .unicodeEscape => "Invalid \\uXXXX escape".toList

/-- A place in a text: its offset, and its line and column, both counted from one. -/
structure Position where
  offset : Nat
  line : Nat
  column : Nat
deriving DecidableEq

/-- The position of an offset: a line ends after each line feed. -/
def Position.of (text : Text) (offset : Nat) : Position :=
  let seen := text.take offset
  ⟨offset, 1 + seen.count '\n', 1 + (seen.reverse.takeWhile (· != '\n')).length⟩

/-- The two kinds of containers. -/
inductive Container
  | array
  | object
deriving DecidableEq

/-- The name of a container. -/
def Container.name : Container → Text
  | .array => "array".toList
  | .object => "object".toList

/-- Why a text could not be read. -/
inductive Error
  | malformed (fault : Fault) (position : Position)
  /-- An integer of more digits than can be converted. -/
  | numeralTooLong (digits : Nat)
  /-- A container inside more open ones than can be kept track of. -/
  | tooDeep (container : Container)
deriving DecidableEq

/-- The message for a container that is too deep inside others. -/
def tooDeepMessage (container : Container) : Text :=
  "maximum recursion depth exceeded while decoding a JSON ".toList ++ container.name ++
    " from a unicode string".toList

/-- The message for a fault at a position. -/
def Fault.message (fault : Fault) (p : Position) : Text :=
  fault.reason ++ ": line ".toList ++ Text.ofNat p.line ++ " column ".toList ++
    Text.ofNat p.column ++ " (char ".toList ++ Text.ofNat p.offset ++ ")".toList

end Json

end Phrasebook
