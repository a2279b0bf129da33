import Phrasebook.Number.Numeral

/-!
# Directives of a layout

A directive is a percent sign, the name of a field between round brackets, flags, a width, a
precision and a letter for the conversion. The name may hold brackets in pairs; without a
name the directive takes the whole record. A width or a precision is a number or a star, for
one that is taken from the value itself, and a letter for a size in memory may stand before
the conversion without effect.
-/

namespace Phrasebook.Log

/-- A width or a precision as a directive gives it. -/
inductive Size
  | unset
  | fixed (n : Nat)
  | fromValue
deriving DecidableEq

/-- The number that a size is given as. -/
def Size.count? : Size → Option Nat
  | .fixed n => some n
  | _ => none

/-- How a field is written. -/
structure Directive where
  /-- The name of the field, if there is one. -/
  field : Option Text
  flags : Text
  width : Size
  precision : Size
  /-- The letter of the conversion, unless the layout ends before it. -/
  conversion : Option Char
  /-- The position of the conversion in the layout. -/
  position : Nat
deriving DecidableEq

/-- Whether a character is a flag. -/
def isFlag (c : Char) : Bool :=
  c == '-' || c == '+' || c == ' ' || c == '#' || c == '0'

/-- The size at the beginning of a text, and what follows it. -/
def takeSize : Text → Size × Text
  | '*' :: rest => (.fromValue, rest)
  | s =>
    match s.takeWhile Char.isDigit with
    | [] => (.unset, s)
    | digits =>
      (.fixed (Numeral.value (digits.map fun c => c.toNat - 48)), s.dropWhile Char.isDigit)

/-- The precision at the beginning of a text, and what follows it. A point without a size is
the precision zero. -/
def takePrecision : Text → Size × Text
  | '.' :: rest =>
    match takeSize rest with
    | (.unset, _) => (.fixed 0, rest)
    | found => found
  | s => (.unset, s)

/-- Drop a letter for a size in memory. -/
def dropMemorySize : Text → Text
  | [] => []
  | c :: rest => if c = 'h' ∨ c = 'l' ∨ c = 'L' then rest else c :: rest

/-- The directive for a field, from what follows its name, and what follows the directive.
`size` is the length of the whole layout. -/
def takeDirective (size : Nat) (field : Option Text) (s : Text) : Directive × Text :=
  let width := takeSize (s.dropWhile isFlag)
  let precision := takePrecision width.2
  let directive (conversion : Option Char) (after : Text) : Directive :=
    ⟨field, s.takeWhile isFlag, width.1, precision.1, conversion, size - (after.length + 1)⟩
  match dropMemorySize precision.2 with
  | [] => (directive none [], [])
  | conversion :: after => (directive (some conversion) after, after)

/-- The name up to the bracket that closes it where `depth` brackets are open inside, and
what follows that bracket. -/
def takeName (depth : Nat) : Text → Option (Text × Text)
  | [] => none
  | c :: rest =>
    if c = ')' then
      match depth with
      | 0 => some ([], rest)
      | depth + 1 => (takeName depth rest).map fun (name, after) => (c :: name, after)
    else
      (takeName (if c = '(' then depth + 1 else depth) rest).map fun (name, after) =>
        (c :: name, after)

theorem takeSize_length (s : Text) : (takeSize s).2.length ≤ s.length := by
  unfold takeSize
  split
  · simp
  · split
    · exact Nat.le_refl _
    · exact (List.dropWhile_sublist _).length_le

theorem takePrecision_length (s : Text) : (takePrecision s).2.length ≤ s.length := by
  unfold takePrecision
  split
  · rename_i rest
    split
    · simp
    · exact Nat.le_succ_of_le (takeSize_length rest)
  · exact Nat.le_refl _

theorem dropMemorySize_length (s : Text) : (dropMemorySize s).length ≤ s.length := by
  unfold dropMemorySize
  split
  · exact Nat.le_refl _
  · split <;> simp

/-- What follows a directive is no longer than what followed its name. -/
theorem takeDirective_length (size : Nat) (field : Option Text) (s : Text) :
    (takeDirective size field s).2.length ≤ s.length := by
  have h₁ := dropMemorySize_length (takePrecision (takeSize (s.dropWhile isFlag)).2).2
  have h₂ := takePrecision_length (takeSize (s.dropWhile isFlag)).2
  have h₃ := takeSize_length (s.dropWhile isFlag)
  have h₄ := (List.dropWhile_sublist isFlag (l := s)).length_le
  unfold takeDirective
  simp only
  split
  · simp
  · rename_i heq
    rw [heq, List.length_cons] at h₁
    simp only
    omega

/-- A name, the bracket that closes it and what follows make up the text. -/
theorem takeName_append {depth : Nat} {s name after : Text}
    (h : takeName depth s = some (name, after)) : name ++ ')' :: after = s := by
  fun_induction takeName depth s generalizing name after with
  | case1 => cases h
  | case2 => cases h; rfl
  | case3 rest depth ih =>
    obtain ⟨⟨name, after⟩, h₁, h₂⟩ := Option.map_eq_some_iff.1 h
    cases h₂
    simp [ih h₁]
  | case4 depth c rest hc ih =>
    obtain ⟨⟨name, after⟩, h₁, h₂⟩ := Option.map_eq_some_iff.1 h
    cases h₂
    simp [ih h₁]

end Phrasebook.Log
