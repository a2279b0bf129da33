import Phrasebook.Text.Blank
import Phrasebook.Text.Digit

/-!
# Written integers

The numerals that count as integers: blanks around an optional sign and decimal digits,
where single underscores may stand between digits. A numeral of more than 4300 digits is
refused, however many of them are leading zeros.
-/

namespace Phrasebook.Numeral

/-- The most digits that a numeral may have. -/
def maxDigits : Nat := 4300

/-- The value of decimal digits, the most significant one first. -/
def value (digits : List Nat) : Nat :=
  digits.foldl (fun n d => 10 * n + d) 0

@[simp] theorem value_nil : value [] = 0 := rfl

/-- The power of ten with this many zeros. -/
def powerOfTen (zeros : Nat) : Nat :=
  Nat.pow 10 zeros

theorem value_append_singleton (digits : List Nat) (d : Nat) :
    value (digits ++ [d]) = 10 * value digits + d := by
  simp [value]

/-- The digits of a text in which single underscores may stand between digits. -/
def digits? (digit? : Char → Option Nat) : Text → Option (List Nat)
  | [] => none
  | [c] => (digit? c).map ([·])
  | c :: d :: rest =>
    if d = '_' then
      match digit? c, digits? digit? rest with
      | some n, some ns => some (n :: ns)
      | _, _ => none
    else
      match digit? c, digits? digit? (d :: rest) with
      | some n, some ns => some (n :: ns)
      | _, _ => none

/-- The sign of a numeral and what follows it. -/
def sign : Text → Bool × Text
  | '-' :: rest => (true, rest)
  | '+' :: rest => (false, rest)
  | s => (false, s)

/-- The integer that a text writes, for a class of blanks and a reading of digits. -/
def integer? (blank : Char → Bool) (digit? : Char → Option Nat) (s : Text) : Option Int :=
  let (negative, rest) := sign (Text.trim blank s)
  match digits? digit? rest with
  | none => none
  | some digits =>
    if digits.length ≤ maxDigits then
      some (if negative then -(value digits : Int) else value digits)
    else none

/-- The integer that a text writes with digits of any script. -/
def ofText? (s : Text) : Option Int :=
  integer? Text.isNumeralBlank Text.digit? s

/-- The integer that bytes write in ASCII. -/
def ofBytes? (bytes : List UInt8) : Option Int :=
  integer? Text.isAsciiBlank Text.asciiDigit? (bytes.map fun b => Char.ofNat b.toNat)

end Phrasebook.Numeral
