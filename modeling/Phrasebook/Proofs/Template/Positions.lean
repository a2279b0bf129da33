import Mathlib.Data.List.Induction
import Mathlib.Data.Nat.Digits.Defs
import Phrasebook.Proofs.Template.References

/-!
# What references stand for

A reference that writes a position can be cut in one way only into blanks, a plus sign, digits and a
rest that begins with no digit. It stands for the argument at the position that the digits write in
decimal, and nothing else of it matters, nor do zeros before the digits. Every other reference is a
name, taken as it stands, that the first argument is asked for.
-/

namespace Phrasebook

/-- Digits are read as a decimal numeral, the most significant one first. -/
theorem Numeral.value_eq_ofDigits (digits : List Nat) :
    Numeral.value digits = Nat.ofDigits 10 digits.reverse := by
  induction digits using List.reverseRecOn with
  | nil => rfl
  | append_singleton digits d ih =>
      rw [value_append_singleton, ih, List.reverse_concat, Nat.ofDigits_cons]
      exact Nat.add_comm _ _

namespace Template

/-! ## The number that digits write -/

/-- The number that ASCII digits write in decimal. -/
def decimal (digits : Text) : Nat :=
  Nat.ofDigits 10 (digits.map fun c => c.toNat - 48).reverse

theorem positionOf_eq_decimal (digits : Text) : positionOf digits = decimal digits :=
  Numeral.value_eq_ofDigits _

/-- Zeros before a numeral do not change its number. -/
theorem decimal_zeros_append (k : Nat) (digits : Text) :
    decimal (List.replicate k '0' ++ digits) = decimal digits := by
  have hzeros : (List.replicate k '0').map (fun c => c.toNat - 48) = List.replicate k 0 :=
    List.map_replicate
  rw [decimal, List.map_append, List.reverse_append, hzeros, List.reverse_replicate,
    Nat.ofDigits_append_replicate_zero]
  rfl

/-! ## The parts of a position -/

/-- The parts of a reference that writes a position. -/
structure PositionParts where
  blanks : Text
  plus : Text
  digits : Text
  rest : Text

/-- The reference consists of these parts: blanks, a plus sign or nothing, digits, and anything that
does not go on with a digit. -/
structure HasParts (reference : Text) (parts : PositionParts) : Prop where
  written : reference = parts.blanks ++ parts.plus ++ parts.digits ++ parts.rest
  blanks : ∀ c ∈ parts.blanks, Text.isAsciiBlank c = true
  plus : parts.plus = [] ∨ parts.plus = ['+']
  digits : ∀ c ∈ parts.digits, c.isDigit = true
  digits_ne_nil : parts.digits ≠ []
  rest : ∀ c, parts.rest.head? = some c → c.isDigit = false

theorem writesPosition_iff_exists_parts {reference digits : Text} :
    WritesPosition reference digits ↔ ∃ parts, HasParts reference parts ∧ parts.digits = digits := by
  constructor
  · rintro ⟨⟨blanks, plus, rest, hwritten, hblanks, hplus, hrest⟩, hne, hdigits⟩
    exact ⟨⟨blanks, plus, digits, rest⟩, ⟨hwritten, hblanks, hplus, hdigits, hne, hrest⟩, rfl⟩
  · rintro ⟨parts, h, rfl⟩
    exact ⟨⟨_, _, _, h.written, h.blanks, h.plus, h.rest⟩, h.digits_ne_nil, h.digits⟩

namespace HasParts

variable {reference : Text} {parts other : PositionParts}

theorem ofText_eq (h : HasParts reference parts) :
    Reference.ofText reference = .position parts.digits :=
  ofText_eq_position_iff.2 (writesPosition_iff_exists_parts.2 ⟨parts, h, rfl⟩)

theorem takeWhile_blank (h : HasParts reference parts) :
    reference.takeWhile Text.isAsciiBlank = parts.blanks := by
  rw [h.written, List.append_assoc, List.append_assoc]
  exact takeWhile_append_stop h.blanks fun c =>
    isAsciiBlank_head_of_digits h.plus h.digits_ne_nil h.digits parts.rest

theorem dropWhile_blank (h : HasParts reference parts) :
    reference.dropWhile Text.isAsciiBlank = parts.plus ++ (parts.digits ++ parts.rest) := by
  rw [h.written, List.append_assoc, List.append_assoc]
  exact dropWhile_append_stop h.blanks fun c =>
    isAsciiBlank_head_of_digits h.plus h.digits_ne_nil h.digits parts.rest

theorem dropPlus_dropWhile_blank (h : HasParts reference parts) :
    dropPlus (reference.dropWhile Text.isAsciiBlank) = parts.digits ++ parts.rest := by
  rw [h.dropWhile_blank, dropPlus_append_digits h.plus h.digits_ne_nil h.digits]

/-- A reference has at most one set of parts. -/
theorem unique (h : HasParts reference parts) (hother : HasParts reference other) :
    parts = other := by
  have hblanks : parts.blanks = other.blanks := by
    rw [← h.takeWhile_blank, hother.takeWhile_blank]
  have hunsigned : parts.digits ++ parts.rest = other.digits ++ other.rest := by
    rw [← h.dropPlus_dropWhile_blank, hother.dropPlus_dropWhile_blank]
  have hsigned : parts.plus ++ (parts.digits ++ parts.rest) =
      other.plus ++ (other.digits ++ other.rest) := by
    rw [← h.dropWhile_blank, hother.dropWhile_blank]
  have hplus : parts.plus = other.plus := by
    rw [hunsigned] at hsigned
    exact List.append_cancel_right hsigned
  have hdigits : parts.digits = other.digits := by
    rw [← takeWhile_append_stop h.digits h.rest, hunsigned,
      takeWhile_append_stop hother.digits hother.rest]
  have hrest : parts.rest = other.rest := by
    rw [← dropWhile_append_stop h.digits h.rest, hunsigned,
      dropWhile_append_stop hother.digits hother.rest]
  cases parts
  cases other
  simp_all

/-- A position stands for the argument there. -/
theorem resolve_eq [Platform] (h : HasParts reference parts) (hlength : parts.digits.length ≤ 4300)
    (args : List Value) :
    resolve reference args = .ok (args[decimal parts.digits]?.getD .null) := by
  rw [resolve, h.ofText_eq, Reference.value, positionOf_eq_decimal]
  exact if_pos hlength

end HasParts

/-- A reference that writes no position is taken for a name as it stands. -/
theorem ofText_eq_property {reference : Text} (h : ∀ parts, ¬HasParts reference parts) :
    Reference.ofText reference = .property reference := by
  cases hread : Reference.ofText reference with
  | position digits =>
      obtain ⟨parts, hparts, -⟩ :=
        writesPosition_iff_exists_parts.1 (ofText_eq_position_iff.1 hread)
      exact absurd hparts (h parts)
  | property name =>
      unfold Reference.ofText at hread
      split at hread
      · exact hread.symm
      · cases hread

/-- A reference is a position exactly if it consists of ASCII blanks, a plus sign or none, ASCII
digits and a rest without a digit in front, and it does so in one way only. It stands for the
argument at the place that the digits write, if there are so many, so that blanks, sign, rest and
leading zeros change nothing. Every other reference is looked up as it stands: among the keys of the
first argument if that is a mapping, and among the attributes that it has on the platform if not.
What is missing is null. -/
theorem resolve_reference [Platform] (reference : Text) (args : List Value) :
    (∀ digits, Reference.ofText reference = .position digits ↔
      ∃ parts, HasParts reference parts ∧ parts.digits = digits) ∧
    (∀ parts, HasParts reference parts →
      (∀ other, HasParts reference other → other = parts) ∧
      (parts.digits.length ≤ 4300 →
        (∀ h : decimal parts.digits < args.length,
          resolve reference args = .ok args[decimal parts.digits]) ∧
        (args.length ≤ decimal parts.digits → resolve reference args = .ok .null) ∧
        ∀ padded padding k, HasParts padded padding →
          padding.digits = List.replicate k '0' ++ parts.digits → padding.digits.length ≤ 4300 →
          resolve padded args = resolve reference args)) ∧
    ((∀ parts, ¬HasParts reference parts) →
      Reference.ofText reference = .property reference ∧
      (args = [] ∨ args.head? = some .null → resolve reference args = .ok .null) ∧
      (∀ entries rest, args = .mapping entries :: rest →
        resolve reference args = .ok ((Dict.get? entries reference).getD .null)) ∧
      ∀ first rest, args = first :: rest → first ≠ .null → (∀ entries, first ≠ .mapping entries) →
        (∀ value, Platform.attribute? first reference = some value →
          resolve reference args = .ok value) ∧
        (Platform.attribute? first reference = none → resolve reference args = .ok .null)) := by
  refine ⟨fun digits => ?_, fun parts h => ⟨fun other hother => hother.unique h, ?_⟩, fun h => ?_⟩
  · rw [ofText_eq_position_iff, writesPosition_iff_exists_parts]
  · intro hlength
    refine ⟨fun hplace => ?_, fun hplace => ?_, ?_⟩
    · rw [h.resolve_eq hlength, List.getElem?_eq_getElem hplace, Option.getD_some]
    · rw [h.resolve_eq hlength, List.getElem?_eq_none hplace, Option.getD_none]
    · intro padded padding k hpadding hzeros hpadded
      rw [hpadding.resolve_eq hpadded, h.resolve_eq hlength, hzeros, decimal_zeros_append]
  · have hname := ofText_eq_property h
    refine ⟨hname, ?_, ?_, ?_⟩
    · rintro (rfl | hnull)
      · rw [resolve, hname, Reference.value]
      · obtain ⟨rest, rfl⟩ := List.head?_eq_some_iff.1 hnull
        rw [resolve, hname, Reference.value]
        rfl
    · rintro entries rest rfl
      rw [resolve, hname, Reference.value, property?]
    · rintro first rest rfl hnull hmapping
      have hattribute : property? first reference = Platform.attribute? first reference := by
        cases first with
        | null => exact absurd rfl hnull
        | mapping entries => exact absurd rfl (hmapping entries)
        | _ => rfl
      rw [resolve, hname, Reference.value, hattribute]
      refine ⟨fun value hvalue => ?_, fun hmissing => ?_⟩
      · rw [hvalue, Option.getD_some]
      · rw [hmissing, Option.getD_none]

/-- Padding, a sign and a zero before a position, a place that is too far, a name that begins with a
blank, and an attribute. -/
theorem resolve_reference_padded :
    let args : List Value := [.mapping [([' ', 'n'], .integer 5)], .text ['b']]
    HasParts ['1', 'y'] ⟨[], [], ['1'], ['y']⟩ ∧
      HasParts ['\t', '+', '0', '1', '-'] ⟨['\t'], ['+'], ['0', '1'], ['-']⟩ ∧
      resolve ['1', 'y'] args = .ok (.text ['b']) ∧
      resolve ['\t', '+', '0', '1', '-'] args = .ok (.text ['b']) ∧
      resolve ['2'] args = .ok .null ∧ resolve [' ', 'n'] args = .ok (.integer 5) ∧
      resolve [' ', 'n'] [.object [([' ', 'n'], .integer 6)]] = .ok (.integer 6) := by
  intro args
  have hplain : HasParts ['1', 'y'] ⟨[], [], ['1'], ['y']⟩ :=
    ⟨rfl, List.all_eq_true.1 rfl, .inl rfl, List.all_eq_true.1 rfl, by decide,
      by rintro c ⟨⟩; rfl⟩
  have hpadded : HasParts ['\t', '+', '0', '1', '-'] ⟨['\t'], ['+'], ['0', '1'], ['-']⟩ :=
    ⟨rfl, List.all_eq_true.1 rfl, .inr rfl, List.all_eq_true.1 rfl, by decide,
      by rintro c ⟨⟩; rfl⟩
  have hfar : HasParts ['2'] ⟨[], [], ['2'], []⟩ :=
    ⟨rfl, List.all_eq_true.1 rfl, .inl rfl, List.all_eq_true.1 rfl, by decide,
      by rintro c ⟨⟩⟩
  have hname : ∀ parts, ¬HasParts [' ', 'n'] parts := by
    intro parts hparts
    have hposition := hparts.ofText_eq
    rw [show Reference.ofText [' ', 'n'] = .property [' ', 'n'] from rfl] at hposition
    cases hposition
  obtain ⟨hplace, -, hzeros⟩ := ((resolve_reference ['1', 'y'] args).2.1 _ hplain).2 (by decide)
  obtain ⟨-, hmissing, -⟩ := ((resolve_reference ['2'] args).2.1 _ hfar).2 (by decide)
  have hsecond : resolve ['1', 'y'] args = .ok (.text ['b']) := hplace (by decide)
  refine ⟨hplain, hpadded, hsecond, ?_, hmissing (by decide), ?_, ?_⟩
  · exact (hzeros _ _ 1 hpadded rfl (by decide)).trans hsecond
  · exact ((resolve_reference [' ', 'n'] args).2.2 hname).2.2.1 _ _ rfl
  · exact (((resolve_reference [' ', 'n'] [.object [([' ', 'n'], .integer 6)]]).2.2 hname).2.2.2
      _ _ rfl nofun nofun).1 _ rfl

end Template

end Phrasebook
