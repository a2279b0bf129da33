import Phrasebook.Number.Shortest

/-!
# Quotients in decimal notation

Three notations of the quotient that a float stands for: with a fixed count of places behind the
point, with an exponent, and the general one, which is positional for powers of ten from -4 up to
the count of digits that are to be significant. Digits that are left out are rounded to nearest and
from a tie to even. The open form of a notation keeps its point and the zeros at its end.
-/

namespace Phrasebook.Notation

/-- A point with digits behind it. The point is left out where no digits are, unless the form
is open. -/
def fraction (opened : Bool) (digits : Text) : Text :=
  if digits.isEmpty && !opened then [] else '.' :: digits

/-- Digits without the zeros at their end. -/
def trimmed (digits : Text) : Text :=
  (digits.reverse.dropWhile (· == '0')).reverse

/-- Digits with zeros at their end up to a count. -/
def completed (count : Nat) (digits : Text) : Text :=
  digits ++ Text.fill (count - digits.length) '0'

/-- More digits than a float has before there is nothing left but zeros. -/
def enough : Nat := 1100

/-- A quotient with `places` digits behind the point. -/
def fixed (opened : Bool) (places num den : Nat) : Text :=
  let kept := min places enough
  let scaled := Binary64.roundDiv (num * Numeral.powerOfTen kept) den
  let digits := Text.padded (kept + 1) scaled
  let whole := digits.length - kept
  digits.take whole ++ fraction opened (completed places (digits.drop whole))

/-- The most significant digits of a quotient, at most `count` of them, and the power of ten of
the first one. -/
def leading (count num den : Nat) : Text × Int :=
  if num = 0 then (['0'], 0)
  else
    let kept := min count enough
    let power := Binary64.leadingPower num den
    let (num, den) := Binary64.scaleDown num den (power - (kept - 1))
    let rounded := Binary64.roundDiv num den
    if rounded = Numeral.powerOfTen kept then (['1'], power + 1) else (Text.ofNat rounded, power)

/-- Significant digits with the power of ten of the first one as an exponent. -/
def scientific (opened : Bool) (digits : Text) (power : Int) : Text :=
  digits.take 1 ++ fraction opened (digits.drop 1) ++ ['e', if power < 0 then '-' else '+'] ++
    Text.padded 2 power.natAbs

/-- A quotient with an exponent and `places` digits behind the point. -/
def exponential (opened : Bool) (places num den : Nat) : Text :=
  let (digits, power) := leading (places + 1) num den
  scientific opened (completed (places + 1) digits) power

/-- A quotient with `count` significant digits, at least one of them. -/
def general (opened : Bool) (count num den : Nat) : Text :=
  let count := max 1 count
  let (digits, power) := leading count num den
  let digits := if opened then completed count digits else trimmed digits
  if power < -4 ∨ (count : Int) ≤ power then scientific opened digits power
  else if power < 0 then "0.".toList ++ Text.fill (-power - 1).toNat '0' ++ digits
  else
    let digits := completed (power.toNat + 1) digits
    digits.take (power.toNat + 1) ++ fraction opened (digits.drop (power.toNat + 1))

end Phrasebook.Notation
