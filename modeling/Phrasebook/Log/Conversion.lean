import Phrasebook.Log.Directive
import Phrasebook.Log.LayoutError
import Phrasebook.Number.Notation
import Phrasebook.Value.Text

/-!
# Conversions

A conversion turns the value of a field into text: into the text of the value, into the
numeral of an integer in base ten, eight or sixteen, into the notation of a real number, or
into a single character. A truth value counts as an integer, and a float as the integer that is
left without its fraction where base ten is asked for. The precision is a length to cut at, a least
count of digits or a count of places. A converted value is then laid out in the width of its
field.
-/

namespace Phrasebook.Log

/-- The room and the manner in which a value is written. -/
structure Slot where
  flags : Text
  width : Nat
  precision : Option Nat
deriving DecidableEq

/-- A value that has been converted. Zeros that fill a width stand behind the lead, which is
a sign and the mark of a base. -/
structure Converted where
  lead : Text
  body : Text
  numeric : Bool
deriving DecidableEq

namespace Slot

/-- A text that is no number. -/
def textual (s : Text) : Converted := ⟨[], s, false⟩

/-- A text cut off at the precision. -/
def cut (slot : Slot) (s : Text) : Converted :=
  textual (match slot.precision with
    | none => s
    | some n => s.take n)

/-- The sign of a number. -/
def sign (slot : Slot) (negative : Bool) : Text :=
  if negative then ['-']
  else if slot.flags.contains '+' then ['+']
  else if slot.flags.contains ' ' then [' ']
  else []

/-- The most digits that can be asked for. -/
def maxDigits : Nat := 2147483644

/-- An integer by the digits of its magnitude, with as many of them as the precision asks
for. -/
def integer (slot : Slot) (n : Int) (mark digits : Text) : Except LayoutError Converted :=
  let count := slot.precision.getD 0
  if maxDigits < count then .error .tooManyDigits
  else
    let lead := slot.sign (decide (n < 0)) ++ mark
    .ok ⟨lead, Text.fill (count - digits.length) '0' ++ digits, true⟩

/-- An integer in base ten, unless it has too many digits to be written. -/
def numeral (slot : Slot) (n : Int) : Except LayoutError Converted :=
  let digits := Text.ofNat n.natAbs
  match slot.integer n [] digits with
  | .error e => .error e
  | .ok converted =>
    if digits.length ≤ Numeral.maxDigits then .ok converted else .error .integerTooLong

/-- A number in base ten, without its fraction. -/
def decimal (slot : Slot) (conversion : Char) (v : Value) : Except LayoutError Converted :=
  match v with
  | .float .nan => .error .nanToInteger
  | .float (.infinity _) => .error .infinityToInteger
  | .float (.finite negative mantissa exponent) =>
    slot.numeral (Binary64.truncate negative mantissa exponent)
  | v =>
    match v.integer? with
    | some n => slot.numeral n
    | none => .error (.notNumeric conversion v.kind)

/-- An integer in another base, whose mark is shown if the flags ask for it. -/
def based (slot : Slot) (conversion : Char) (base : Nat) (mark : Text) (style : Char → Char)
    (v : Value) : Except LayoutError Converted :=
  match v.integer? with
  | some n =>
    let digits := (Nat.toDigits base n.natAbs).map style
    slot.integer n (if slot.flags.contains '#' then mark else []) digits
  | none => .error (.notInteger conversion v.kind)

/-- A notation of a quotient, which is told whether its form is open and how many places it has. -/
abbrev Shape := Bool → Nat → Nat → Nat → Text

/-- A float in a notation, in a style of letters. -/
def float (slot : Slot) (style : Char → Char) (shape : Shape) : Binary64 → Converted
  | .nan => ⟨slot.sign false, "nan".toList.map style, true⟩
  | .infinity negative => ⟨slot.sign negative, "inf".toList.map style, true⟩
  | .finite negative mantissa exponent =>
    let (num, den) := Binary64.quotient mantissa exponent
    let body := shape (slot.flags.contains '#') (slot.precision.getD 6) num den
    ⟨slot.sign negative, body.map style, true⟩

/-- A float, or the one next to an integer, in a notation. -/
def real (slot : Slot) (style : Char → Char) (shape : Shape) (v : Value) :
    Except LayoutError Converted :=
  match v with
  | .float x => .ok (slot.float style shape x)
  | v =>
    match v.integer? with
    | none => .error (.notReal v.kind)
    | some n =>
      match Binary64.ofQuotient (decide (n < 0)) n.natAbs 1 with
      | .infinity _ => .error .tooLargeForFloat
      | x => .ok (slot.float style shape x)

/-- A character, given by itself or by its code point. -/
def character : Value → Except LayoutError Converted
  | .text [c] => .ok (textual [c])
  | v =>
    match v.integer? with
    | none => .error .notCharacter
    | some n =>
      if 0 ≤ n ∧ n ≤ 1114111 then .ok (textual [Char.ofNat n.toNat])
      else .error .characterOutOfRange

/-- A number with an exponent. The largest precision leaves no room for the digit before the
point, and counts as none. -/
def exponential : Shape := fun opened places num den =>
  Notation.exponential opened (if places < SizeKind.precision.limit then places else 0) num den

/-- The text of a value, unless there is an integer in it of too many digits. -/
def written (slot : Slot) (v : Value) (text : Text) : Except LayoutError Converted :=
  if v.hasText then .ok (slot.cut text) else .error .integerTooLong

/-- A value under a conversion that stands at a position of the layout. -/
def convert (slot : Slot) (conversion : Char) (position : Nat) (v : Value) :
    Except LayoutError Converted :=
  match conversion with
  | 's' => slot.written v v.plain
  | 'r' => slot.written v v.literal
  | 'a' => slot.written v (Text.inAscii v.literal)
  | 'd' | 'i' | 'u' => slot.decimal conversion v
  | 'o' => slot.based conversion 8 ['0', 'o'] id v
  | 'x' => slot.based conversion 16 ['0', 'x'] id v
  | 'X' => slot.based conversion 16 ['0', 'X'] Char.toUpper v
  | 'e' => slot.real id exponential v
  | 'E' => slot.real Char.toUpper exponential v
  | 'f' => slot.real id Notation.fixed v
  | 'F' => slot.real Char.toUpper Notation.fixed v
  | 'g' => slot.real id Notation.general v
  | 'G' => slot.real Char.toUpper Notation.general v
  | 'c' => character v
  | _ => .error (.unsupported conversion position)

/-- A converted value in its width: to the right, to the left, or with zeros before its
digits. -/
def layOut (slot : Slot) (c : Converted) : Text :=
  let room := slot.width - (c.lead.length + c.body.length)
  if slot.flags.contains '-' then c.lead ++ c.body ++ Text.fill room ' '
  else if c.numeric && slot.flags.contains '0' then c.lead ++ Text.fill room '0' ++ c.body
  else Text.fill room ' ' ++ c.lead ++ c.body

/-- A value that is laid out fills its width, and is longer only if it has to be. -/
theorem length_layOut (slot : Slot) (c : Converted) :
    (slot.layOut c).length = max slot.width (c.lead.length + c.body.length) := by
  unfold layOut
  simp only
  split
  · simp [Text.fill]
    omega
  · split <;> simp [Text.fill] <;> omega

end Slot

/-- Take the value for a size, if the size is to be taken from it. What is left of the value
is the result. -/
def Size.use (kind : SizeKind) : Size → Option Value → Except LayoutError (Option Value)
  | .unset, value => .ok value
  | .fixed n, value => if kind.limit < n then .error (.sizeTooBig kind) else .ok value
  | .fromValue, none => .error .noValueLeft
  | .fromValue, some v =>
    match v.integer? with
    | none => .error .sizeNotInteger
    | some n =>
      if -(kind.limit : Int) - 1 ≤ n ∧ n ≤ kind.limit then .ok none
      else .error (.sizeOutOfRange kind)

namespace Directive

/-- The width from which on a line is too long. -/
def maxWidth : Nat := 4294967296

/-- The slot of a directive. -/
def slot (d : Directive) : Slot :=
  ⟨d.flags, d.width.count?.getD 0, d.precision.count?⟩

/-- The text of a directive for the value that it takes, if one is left for it. -/
def fill (d : Directive) (value : Option Value) : Except LayoutError Text := do
  let value ← d.width.use .width value
  let value ← d.precision.use .precision value
  match d.conversion, value with
  | none, _ => throw .incomplete
  | some _, none => throw .noValueLeft
  | some conversion, some value =>
    let converted ← d.slot.convert conversion d.position value
    if d.slot.width < maxWidth then return d.slot.layOut converted else throw .tooLong

end Directive

end Phrasebook.Log
