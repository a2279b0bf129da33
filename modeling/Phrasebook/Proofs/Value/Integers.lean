import Mathlib.Algebra.Order.Floor.Semifield
import Mathlib.Data.Rat.Floor
import Phrasebook.Value.Integer

/-!
# Values that count as integers

What a value counts as is told kind by kind. A finite float counts as an integer with its fraction
cut off, which takes it towards zero on both sides. Texts and bytes count as the integer that they
write, and nulls, lists, mappings and objects count as none.
-/

namespace Phrasebook

namespace Binary64

/-- The quotient that is cut off is the number without its sign. -/
theorem quotient_eq (mantissa : Nat) (exponent : Int) :
    ((quotient mantissa exponent).1 : ℚ) / (quotient mantissa exponent).2 =
      mantissa * 2 ^ exponent := by
  unfold quotient
  split
  · rename_i h
    obtain ⟨k, rfl⟩ := Int.eq_ofNat_of_zero_le h
    simp [Nat.shiftLeft_eq]
  · rename_i h
    obtain ⟨k, rfl⟩ : ∃ k : Nat, exponent = -(k : Int) := ⟨(-exponent).toNat, by omega⟩
    simp [Nat.shiftLeft_eq, div_eq_mul_inv]

/-- Cutting off the fraction keeps the integer part of the number without its sign. -/
theorem truncate_eq (negative : Bool) (mantissa : Nat) (exponent : Int) :
    truncate negative mantissa exponent =
      if negative then -(⌊(mantissa : ℚ) * 2 ^ exponent⌋₊ : Int)
      else ⌊(mantissa : ℚ) * 2 ^ exponent⌋₊ := by
  rw [← quotient_eq, Nat.floor_div_eq_div, truncate]

end Binary64

namespace Value

/-- The value counts as this integer. -/
inductive CountsAs : Value → Int → Prop
  | no : CountsAs (.boolean false) 0
  | yes : CountsAs (.boolean true) 1
  | integer (n : Int) : CountsAs (.integer n) n
  | positive (mantissa : Nat) (exponent : Int) :
    CountsAs (.float (.finite false mantissa exponent)) ⌊(mantissa : ℚ) * 2 ^ exponent⌋₊
  | negative (mantissa : Nat) (exponent : Int) :
    CountsAs (.float (.finite true mantissa exponent)) (-⌊(mantissa : ℚ) * 2 ^ exponent⌋₊)
  | text {s : Text} {n : Int} (numeral : Numeral.ofText? s = some n) : CountsAs (.text s) n
  | bytes {b : List UInt8} {n : Int} (numeral : Numeral.ofBytes? b = some n) :
    CountsAs (.bytes b) n

theorem AsInteger.ofOption_eq_integer_iff {read : Option Int} {n : Int} :
    AsInteger.ofOption read = .integer n ↔ read = some n := by
  cases read <;> simp [AsInteger.ofOption]

theorem asInteger_eq_integer_iff {value : Value} {n : Int} :
    value.asInteger = .integer n ↔ value.CountsAs n := by
  constructor
  · intro h
    cases value with
    | boolean b =>
        cases b with
        | false => cases h; exact .no
        | true => cases h; exact .yes
    | integer m => cases h; exact .integer n
    | float x =>
        cases x with
        | finite negative mantissa exponent =>
            simp only [asInteger, AsInteger.integer.injEq, Binary64.truncate_eq] at h
            cases negative with
            | false => subst h; exact .positive mantissa exponent
            | true => subst h; exact .negative mantissa exponent
        | _ => cases h
    | text s => exact .text (AsInteger.ofOption_eq_integer_iff.1 h)
    | bytes b => exact .bytes (AsInteger.ofOption_eq_integer_iff.1 h)
    | _ => cases h
  · intro h
    cases h with
    | positive mantissa exponent => simp [asInteger, Binary64.truncate_eq]
    | negative mantissa exponent => simp [asInteger, Binary64.truncate_eq]
    | text numeral => exact AsInteger.ofOption_eq_integer_iff.2 numeral
    | bytes numeral => exact AsInteger.ofOption_eq_integer_iff.2 numeral
    | _ => rfl

end Value

end Phrasebook
