import Mathlib.Data.List.TakeWhile
import Phrasebook.Template.Reference

/-!
# How references are written

A reference writes a position if it has decimal digits behind blanks and a plus sign, neither of
which needs to be there. The digits go on as far as they can, and what follows them does not
matter. Reading a reference decides this grammar, and resolving it can fail in one way only: there
are more digits than can be converted.
-/

namespace Phrasebook.Template

/-- The reference has these digits, as many as follow each other, behind nothing but blanks and a
plus sign. -/
structure WritesPosition (reference digits : Text) : Prop where
  written : ∃ blanks plus rest, reference = blanks ++ plus ++ digits ++ rest ∧
    (∀ c ∈ blanks, Text.isAsciiBlank c = true) ∧ (plus = [] ∨ plus = ['+']) ∧
    ∀ c, rest.head? = some c → c.isDigit = false
  ne_nil : digits ≠ []
  all_digits : ∀ c ∈ digits, c.isDigit = true

theorem takeWhile_append_stop {α : Type} {p : α → Bool} {a b : List α} (ha : ∀ x ∈ a, p x = true)
    (hb : ∀ x, b.head? = some x → p x = false) : (a ++ b).takeWhile p = a := by
  rw [List.takeWhile_append_of_pos ha]
  cases b with
  | nil => simp
  | cons x b => rw [List.takeWhile_cons_of_neg (by simp [hb x rfl]), List.append_nil]

theorem dropWhile_append_stop {α : Type} {p : α → Bool} {a b : List α} (ha : ∀ x ∈ a, p x = true)
    (hb : ∀ x, b.head? = some x → p x = false) : (a ++ b).dropWhile p = b := by
  rw [List.dropWhile_append_of_pos ha]
  cases b with
  | nil => rfl
  | cons x b => exact List.dropWhile_cons_of_neg (by simp [hb x rfl])

theorem isAsciiBlank_of_isDigit {c : Char} (h : c.isDigit = true) :
    Text.isAsciiBlank c = false := by
  simp only [Char.isDigit, Bool.and_eq_true, decide_eq_true_eq, ge_iff_le, UInt32.le_iff_toNat_le]
    at h
  have hlow : 48 ≤ c.toNat := h.1
  simp only [Text.isAsciiBlank, Bool.or_eq_false_iff, beq_eq_false_iff_ne, Bool.and_eq_false_iff,
    decide_eq_false_iff_not]
  omega

theorem dropPlus_of_head_ne {s : Text} (h : s.head? ≠ some '+') : dropPlus s = s := by
  unfold dropPlus
  split
  · exact absurd rfl h
  · rfl

/-- What is dropped from a text is nothing or a plus sign. -/
theorem exists_plus (s : Text) :
    ∃ plus, s = plus ++ dropPlus s ∧ (plus = [] ∨ plus = ['+']) := by
  unfold dropPlus
  split
  · exact ⟨['+'], rfl, .inr rfl⟩
  · exact ⟨[], rfl, .inl rfl⟩

section

variable {plus digits : Text} (hplus : plus = [] ∨ plus = ['+']) (hne : digits ≠ [])
  (hdigits : ∀ c ∈ digits, c.isDigit = true) (rest : Text)

include hplus hne hdigits

/-- The blanks of a reference end before the plus sign, or before the digits where there is none. -/
theorem isAsciiBlank_head_of_digits {c : Char}
    (hc : (plus ++ (digits ++ rest)).head? = some c) : Text.isAsciiBlank c = false := by
  obtain ⟨d, more, rfl⟩ := List.exists_cons_of_ne_nil hne
  rcases hplus with rfl | rfl
  · obtain rfl : d = c := Option.some.inj hc
    exact isAsciiBlank_of_isDigit (hdigits d List.mem_cons_self)
  · obtain rfl : '+' = c := Option.some.inj hc
    decide

theorem dropPlus_append_digits : dropPlus (plus ++ (digits ++ rest)) = digits ++ rest := by
  obtain ⟨d, more, rfl⟩ := List.exists_cons_of_ne_nil hne
  rcases hplus with rfl | rfl
  · apply dropPlus_of_head_ne
    intro hc
    obtain rfl : d = '+' := Option.some.inj hc
    exact absurd (hdigits '+' List.mem_cons_self) (by decide)
  · rfl

end

theorem ofText_of_writesPosition {reference digits : Text} (h : WritesPosition reference digits) :
    Reference.ofText reference = .position digits := by
  obtain ⟨blanks, plus, rest, rfl, hblanks, hplus, hrest⟩ := h.written
  have hdrop : (blanks ++ plus ++ digits ++ rest).dropWhile Text.isAsciiBlank =
      plus ++ (digits ++ rest) := by
    rw [List.append_assoc, List.append_assoc]
    exact dropWhile_append_stop hblanks fun c =>
      isAsciiBlank_head_of_digits hplus h.ne_nil h.all_digits rest
  have hplain := dropPlus_append_digits hplus h.ne_nil h.all_digits rest
  have hdigits : (digits ++ rest).takeWhile Char.isDigit = digits :=
    takeWhile_append_stop h.all_digits hrest
  obtain ⟨d, more, heq⟩ := List.exists_cons_of_ne_nil h.ne_nil
  rw [Reference.ofText, hdrop, hplain, hdigits, heq]

theorem writesPosition_of_ofText {reference digits : Text}
    (h : Reference.ofText reference = .position digits) : WritesPosition reference digits := by
  let unpadded := reference.dropWhile Text.isAsciiBlank
  obtain ⟨plus, hplus, hsign⟩ := exists_plus unpadded
  unfold Reference.ofText at h
  split at h
  · cases h
  · rename_i hne
    cases h
    have hrest : ∀ c, ((dropPlus unpadded).dropWhile Char.isDigit).head? = some c →
        c.isDigit = false := by
      intro c hc
      have hnot := List.head?_dropWhile_not Char.isDigit (dropPlus unpadded)
      rw [hc] at hnot
      simpa using hnot
    have hwritten : reference = reference.takeWhile Text.isAsciiBlank ++ plus ++
        (dropPlus unpadded).takeWhile Char.isDigit ++
          (dropPlus unpadded).dropWhile Char.isDigit := by
      rw [List.append_assoc, List.takeWhile_append_dropWhile, List.append_assoc, ← hplus,
        List.takeWhile_append_dropWhile]
    exact ⟨⟨_, plus, _, hwritten, fun c hc => List.mem_takeWhile_imp hc, hsign, hrest⟩,
      fun hnil => hne hnil, fun c hc => List.mem_takeWhile_imp hc⟩

/-- Reading a reference finds the digits of a position exactly where it writes one. -/
theorem ofText_eq_position_iff {reference digits : Text} :
    Reference.ofText reference = .position digits ↔ WritesPosition reference digits :=
  ⟨writesPosition_of_ofText, ofText_of_writesPosition⟩

/-- Only a position of too many digits has no value; what the arguments lack is null. -/
theorem resolve_eq_error_iff [Platform] {reference : Text} {args : List Value} {e : FormatError} :
    resolve reference args = .error e ↔
      ∃ digits, WritesPosition reference digits ∧ Numeral.maxDigits < digits.length ∧
        e = .numeralTooLong digits.length := by
  simp only [← ofText_eq_position_iff]
  unfold resolve
  cases Reference.ofText reference with
  | position digits =>
      rw [Reference.value]
      split
      · rename_i hle
        simp only [reduceCtorEq, Reference.position.injEq, exists_eq_left', false_iff, not_and]
        intro hlt
        exact absurd hle (Nat.not_le.2 hlt)
      · rename_i hlt
        simp only [Except.error.injEq, Reference.position.injEq, exists_eq_left', eq_comm (b := e)]
        exact ⟨fun heq => ⟨Nat.not_le.1 hlt, heq⟩, fun heq => heq.2⟩
  | property name =>
      cases args <;> simp [Reference.value]

end Phrasebook.Template
