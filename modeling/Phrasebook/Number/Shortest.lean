import Phrasebook.Number.Binary64

/-!
# The shortest decimal that reads back

The text of a float shows the fewest digits that read back as the same float; of the
decimals with that many digits it shows the nearest, and of two equally near ones the one
with an even last digit. The point is written out for exponents from -4 to 15, otherwise
an exponent of at least two digits follows the letter `e`.
-/

namespace Phrasebook.Binary64

/-- A positive decimal `digits * 10 ^ exponent`. -/
structure Decimal where
  digits : Nat
  exponent : Int

/-- Whether a decimal reads back as a positive finite float. -/
def readsBack (mantissa : Nat) (exponent : Int) (d : Decimal) : Bool :=
  ofDecimal false d.digits d.exponent == .finite false mantissa exponent

/-- The numerator and denominator of a quotient divided by a power of ten. -/
def scaleDown (num den : Nat) (power : Int) : Nat × Nat :=
  if 0 ≤ power then (num, den * Numeral.powerOfTen power.toNat)
  else (num * Numeral.powerOfTen (-power).toNat, den)

/-- The nearest decimal on one grid that reads back, if either neighbour does. -/
def onGrid? (mantissa : Nat) (exponent power : Int) : Option Decimal :=
  let (num, den) := quotient mantissa exponent
  let (num, den) := scaleDown num den power
  let below := num / den
  let remainder := num % den
  let low : Decimal := ⟨below, power⟩
  let high : Decimal := ⟨below + 1, power⟩
  let readsBack := readsBack mantissa exponent
  match readsBack low, readsBack high with
  | true, true =>
    if 2 * remainder < den then some low
    else if den < 2 * remainder then some high
    else if below % 2 = 0 then some low else some high
  | true, false => some low
  | false, true => some high
  | false, false => none

/-- The power of ten just below or at a positive quotient. -/
def leadingPower (num den : Nat) : Int :=
  let guess : Int := ((Nat.toDigits 10 num).length : Int) - ((Nat.toDigits 10 den).length : Int)
  let (n, d) := scaleDown num den guess
  if d ≤ n then guess else guess - 1

/-- The coarsest decimal that reads back, on grids from one digit to seventeen. -/
def shortest (mantissa : Nat) (exponent : Int) : Decimal :=
  let (num, den) := quotient mantissa exponent
  let top := leadingPower num den
  let hit? := (List.range 17).findSome? fun (i : Nat) => onGrid? mantissa exponent (top - i)
  hit?.getD ⟨0, 0⟩

/-- The digits of a decimal without zeros at their end. -/
def significant (d : Decimal) : Text :=
  ((Text.ofNat d.digits).reverse.dropWhile (· == '0')).reverse

/-- A positive decimal in positional notation or with an exponent. -/
def Decimal.text (d : Decimal) : Text :=
  let digits := significant d
  let point : Int := d.exponent + (Text.ofNat d.digits).length
  if -4 < point ∧ point ≤ 16 then
    if point ≤ 0 then "0.".toList ++ Text.fill (-point).toNat '0' ++ digits
    else if (digits.length : Int) ≤ point then
      digits ++ Text.fill (point.toNat - digits.length) '0' ++ ".0".toList
    else digits.take point.toNat ++ ".".toList ++ digits.drop point.toNat
  else
    let power := point - 1
    let sign : Text := if power < 0 then ['-'] else ['+']
    let size := Text.ofNat power.natAbs
    let fraction : Text := if digits.length ≤ 1 then [] else '.' :: digits.drop 1
    digits.take 1 ++ fraction ++ ['e'] ++ sign ++ Text.fill (2 - size.length) '0' ++ size

/-- The text of a float. -/
def text : Binary64 → Text
  | .nan => "nan".toList
  | .infinity negative => (if negative then ['-'] else []) ++ "inf".toList
  | .finite negative mantissa exponent =>
    (if negative then ['-'] else []) ++
      if mantissa = 0 then "0.0".toList else (shortest mantissa exponent).text

end Phrasebook.Binary64
