import Phrasebook.Number.Numeral
import Phrasebook.Number.Shortest
import Phrasebook.Text.Quoted
import Phrasebook.Value.Basic

/-!
# The text of a value

By itself a text stands for its characters; inside another value it is quoted. All other
values look the same in both places, except that a null leaves nothing in a template. An
integer of more than 4300 digits is not written, nor is a value that holds one.
-/

namespace Phrasebook.Value

/-- Items between brackets. -/
def bracketed (opening closing : Text) (items : List Text) : Text :=
  opening ++ Text.join ", ".toList items ++ closing

/-- Items between round brackets. A single one is followed by a comma. -/
def tupleText : List Text → Text
  | [item] => ['('] ++ item ++ [',', ')']
  | items => bracketed ['('] [')'] items

mutual

/-- The text of a value inside another one. -/
def literal : Value → Text
  | .null => "None".toList
  | .boolean b => if b then "True".toList else "False".toList
  | .integer n => Text.ofInt n
  | .float x => x.text
  | .text s => Text.quoted s
  | .bytes b => Text.quotedBytes b
  | .list items => bracketed ['['] [']'] (literals items)
  | .tuple items => tupleText (literals items)
  | .mapping entries => bracketed ['\x7b'] ['\x7d'] (entryLiterals entries)
  | .object fields => bracketed "namespace(".toList [')'] (fieldLiterals fields)
  | .foreign _ written => written

/-- The texts of items. -/
def literals : List Value → List Text
  | [] => []
  | item :: rest => literal item :: literals rest

/-- The texts of the entries of a mapping: quoted key, colon, value. -/
def entryLiterals : List (Text × Value) → List Text
  | [] => []
  | (key, item) :: rest => (Text.quoted key ++ ": ".toList ++ literal item) :: entryLiterals rest

/-- The texts of the fields of an object that have a name: name, equals sign, value. -/
def fieldLiterals : List (Text × Value) → List Text
  | [] => []
  | (name, item) :: rest =>
    if name.isEmpty then fieldLiterals rest
    else (name ++ ['='] ++ literal item) :: fieldLiterals rest

end

mutual

/-- Whether a value can be written: no integer in it has too many digits. -/
def hasText : Value → Bool
  | .integer n => (Text.ofNat n.natAbs).length ≤ Numeral.maxDigits
  | .list items => haveText items
  | .tuple items => haveText items
  | .mapping entries => entriesHaveText entries
  | .object fields => fieldsHaveText fields
  | _ => true

/-- Whether all items can be written. -/
def haveText : List Value → Bool
  | [] => true
  | item :: rest => hasText item && haveText rest

/-- Whether all entries of a mapping can be written. -/
def entriesHaveText : List (Text × Value) → Bool
  | [] => true
  | (_, item) :: rest => hasText item && entriesHaveText rest

/-- Whether all fields that have a name can be written. -/
def fieldsHaveText : List (Text × Value) → Bool
  | [] => true
  | (name, item) :: rest => (name.isEmpty || hasText item) && fieldsHaveText rest

end

/-- The text of a value by itself. -/
def plain : Value → Text
  | .text s => s
  | v => v.literal

/-- The text that a value leaves in a template. -/
def substituted : Value → Text
  | .null => []
  | v => v.plain

@[simp] theorem plain_text (s : Text) : plain (.text s) = s := rfl

@[simp] theorem substituted_null : substituted .null = [] := rfl

@[simp] theorem substituted_text (s : Text) : substituted (.text s) = s := rfl

@[simp] theorem substituted_integer (n : Int) : substituted (.integer n) = Text.ofInt n := rfl

end Phrasebook.Value
