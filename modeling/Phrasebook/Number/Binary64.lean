import Phrasebook.Number.Numeral

/-!
# Binary floating point numbers of 64 bits

A finite number is a natural mantissa below 2^53 scaled by a power of two, so rounding a
quotient to a float, comparing floats and cutting off a fraction are exact arithmetic on
natural numbers. Rounding is to the nearest float, a tie going to the even mantissa.
-/

namespace Phrasebook

/-- A float. A finite one has the value `mantissa * 2 ^ exponent`, with its sign apart so
that zero has two. -/
inductive Binary64
  | nan
  | infinity (negative : Bool)
  | finite (negative : Bool) (mantissa : Nat) (exponent : Int)
deriving DecidableEq

namespace Binary64

/-- The least exponent, that of zero and of the numbers without a leading bit. -/
def minExponent : Int := -1074

/-- The largest exponent of a finite number. -/
def maxExponent : Int := 971

/-- Zero. -/
def zero (negative : Bool) : Binary64 :=
  .finite negative 0 minExponent

/-- The quotient of two naturals, rounded to the nearest natural and from a tie to the even
one. -/
def roundDiv (num den : Nat) : Nat :=
  let q := num / den
  let r := num % den
  if 2 * r < den then q
  else if den < 2 * r then q + 1
  else if q % 2 = 0 then q else q + 1

/-- The exponent at which a positive quotient has a mantissa of 53 bits, or the least one. -/
def exponentOf (num den : Nat) : Int :=
  let guess : Int := (num.log2 : Int) - (den.log2 : Int) - 53
  let fits (e : Int) : Bool :=
    -- num / den < 2 ^ (e + 53)
    if 0 ≤ e + 53 then num < den <<< (e + 53).toNat else num <<< (-(e + 53)).toNat < den
  let e := if fits guess then guess else if fits (guess + 1) then guess + 1 else guess + 2
  max e minExponent

/-- The float nearest to a quotient of naturals. -/
def ofQuotient (negative : Bool) (num den : Nat) : Binary64 :=
  if num = 0 then zero negative
  else
    let e := exponentOf num den
    let mantissa :=
      if 0 ≤ e then roundDiv num (den <<< e.toNat) else roundDiv (num <<< (-e).toNat) den
    let (mantissa, e) := if mantissa = 1 <<< 53 then (1 <<< 52, e + 1) else (mantissa, e)
    if maxExponent < e then .infinity negative else .finite negative mantissa e

/-- The float nearest to `digits * 10 ^ exponent`. Far outside the range of the finite
floats the answer is known from the size of the exponent alone. -/
def ofDecimal (negative : Bool) (digits : Nat) (exponent : Int) : Binary64 :=
  let size : Int := (Nat.toDigits 10 digits).length
  if digits = 0 ∨ exponent + size < -400 then zero negative
  else if 400 < exponent + size then .infinity negative
  else if 0 ≤ exponent then ofQuotient negative (digits * Numeral.powerOfTen exponent.toNat) 1
  else ofQuotient negative digits (Numeral.powerOfTen (-exponent).toNat)

/-- The quotient of naturals that a finite mantissa and exponent stand for. -/
def quotient (mantissa : Nat) (exponent : Int) : Nat × Nat :=
  if 0 ≤ exponent then (mantissa <<< exponent.toNat, 1)
  else (mantissa, 1 <<< (-exponent).toNat)

/-- The integer part of a finite number, the fraction cut off. -/
def truncate (negative : Bool) (mantissa : Nat) (exponent : Int) : Int :=
  let (num, den) := quotient mantissa exponent
  if negative then -((num / den : Nat) : Int) else (num / den : Nat)

/-- The leading ASCII digits of a text and what follows them. -/
def takeDigits (s : Text) : List Nat × Text :=
  ((s.takeWhile Char.isDigit).map fun c => c.toNat - 48, s.dropWhile Char.isDigit)

/-- The exponent part of a written number, which may be missing. -/
def exponentOfText? : Text → Option Int
  | [] => some 0
  | e :: rest =>
    if e = 'e' ∨ e = 'E' then
      let (negative, rest) : Bool × Text :=
        match rest with
        | '-' :: rest => (true, rest)
        | '+' :: rest => (false, rest)
        | rest => (false, rest)
      match takeDigits rest with
      | ([], _) => none
      | (digits, []) =>
        some (if negative then -(Numeral.value digits : Int) else Numeral.value digits)
      | _ => none
    else none

/-- The float that a text writes: digits with an optional fraction and exponent, or one of
the names `nan` and `inf`, after an optional sign. -/
def ofText? (s : Text) : Option Binary64 :=
  let (negative, rest) : Bool × Text :=
    match s with
    | '-' :: rest => (true, rest)
    | '+' :: rest => (false, rest)
    | rest => (false, rest)
  if rest = "nan".toList then some .nan
  else if rest = "inf".toList then some (.infinity negative)
  else
    let (whole, rest) := takeDigits rest
    let (fraction, rest) :=
      match rest with
      | '.' :: rest => takeDigits rest
      | rest => ([], rest)
    if whole.isEmpty && fraction.isEmpty then none
    else
      (exponentOfText? rest).map fun e =>
        ofDecimal negative (Numeral.value (whole ++ fraction)) (e - fraction.length)

end Binary64

end Phrasebook
