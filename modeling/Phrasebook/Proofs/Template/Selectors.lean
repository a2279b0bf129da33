import Phrasebook.Proofs.Template.Operators
import Phrasebook.Proofs.Value.Numerals

/-!
# Texts that select

A text selects as the integer that it writes, and one that writes no integer or a negative one
selects nothing. So an integer and its text take the same branch. The information separators U+001C
to U+001F are no blanks around a numeral, although they are white space elsewhere.
-/

namespace Phrasebook.Template

variable {s : Text}

theorem countsAs_text_iff {n : Int} :
    (Value.text s).CountsAs n ↔ Numeral.IsNumeral Text.isNumeralBlank s n := by
  rw [← Numeral.ofText?_eq_some_iff]
  constructor
  · rintro ⟨⟩
    assumption
  · exact .text

/-- A text that is no numeral of a natural number selects nothing. -/
theorem select_of_no_numeral (h : ∀ n : Nat, ¬Numeral.IsNumeral Text.isNumeralBlank s n)
    (choices : List Text) : select (.text s) choices = .ok [] := by
  refine select_of_countsAs_neg (fun n hn => ?_) (by simp) choices
  by_contra hle
  obtain ⟨m, rfl⟩ := Int.eq_ofNat_of_zero_le (Int.not_lt.1 hle)
  exact h m (countsAs_text_iff.1 hn)

/-- Choices that tell all numbers up to some bound apart, none of them empty. -/
def tally (bound : Nat) : List Text :=
  (List.range (bound + 1)).map fun n => List.replicate (n + 1) '|'

theorem tally_ne_nil (bound : Nat) : tally bound ≠ [] := by
  simp [tally]

theorem getElem_tally {bound n : Nat} (h : n < (tally bound).length) :
    (tally bound)[n] = List.replicate (n + 1) '|' := by
  simp [tally]

/-- Past the last choice it is the last one, so a number is told by its choices only as far as they
reach: those of a tally beyond a number tell it. -/
theorem eq_of_select_tally {n : Nat}
    (h : ∃ _ : min n ((tally (n + 1)).length - 1) < (tally (n + 1)).length,
      select (.text s) (tally (n + 1)) = .ok (tally (n + 1))[min n ((tally (n + 1)).length - 1)]) :
    Numeral.IsNumeral Text.isNumeralBlank s n := by
  obtain ⟨hindex, hselect⟩ := h
  rw [getElem_tally] at hselect
  by_contra hnot
  by_cases hnone : ∀ m : Nat, ¬Numeral.IsNumeral Text.isNumeralBlank s m
  · rw [select_of_no_numeral hnone] at hselect
    cases hselect
  · obtain ⟨m, hm⟩ := not_forall_not.1 hnone
    obtain ⟨hindex', hselect'⟩ := select_of_countsAs (countsAs_text_iff.2 hm) (Int.natCast_nonneg m)
      (tally_ne_nil (n + 1))
    rw [getElem_tally, hselect] at hselect'
    have hlength := congrArg List.length (Except.ok.inj hselect')
    have htally : (tally (n + 1)).length = n + 2 := by simp [tally]
    simp only [List.length_replicate, Int.toNat_natCast, htally] at hlength
    obtain rfl : m = n := by omega
    exact hnot hm

/-- A text selects as a natural number exactly if it is a numeral of it: blanks other than the
information separators around a sign or none and at most 4300 digits of any script, with single
underscores between digits. With every other text, those that write a negative integer among them,
nothing is selected. So an integer of at most 4300 digits selects as its text does. -/
theorem select_text (s : Text) :
    (∀ n : Nat, Numeral.IsNumeral Text.isNumeralBlank s n ↔
      ∀ choices : List Text, choices ≠ [] →
        ∃ _ : min n (choices.length - 1) < choices.length,
          select (.text s) choices = .ok choices[min n (choices.length - 1)]) ∧
    ((∀ n : Nat, ¬Numeral.IsNumeral Text.isNumeralBlank s n) →
      ∀ choices : List Text, select (.text s) choices = .ok []) ∧
    ∀ n : Int, (Text.ofNat n.natAbs).length ≤ 4300 →
      ∀ choices : List Text,
        select (.text (Text.ofInt n)) choices = select (.integer n) choices := by
  refine ⟨fun n => ⟨fun hn choices hne => ?_, fun h => ?_⟩, select_of_no_numeral, ?_⟩
  · exact select_of_countsAs (countsAs_text_iff.2 hn) (Int.natCast_nonneg n) hne
  · exact eq_of_select_tally (h _ (tally_ne_nil (n + 1)))
  · intro n hlength choices
    have hread : (Value.text (Text.ofInt n)).asInteger = .integer n :=
      Value.asInteger_eq_integer_iff.2 (.text (Numeral.ofText?_ofInt hlength))
    rw [select, select, hread, Value.asInteger_integer]

/-- A numeral in two scripts with blanks around it, a negative one, and an integer past the last
choice. -/
theorem select_text_scripts :
    let choices : List Text := [['a'], ['b'], ['c']]
    select (.text [' ', '+', '0', '_', '\u0661', '\u00a0']) choices = .ok ['b'] ∧
      select (.text ['-', '1']) choices = .ok [] ∧
      select (.text (Text.ofInt 12)) choices = select (.integer 12) choices := by
  intro choices
  have hone : Numeral.IsNumeral Text.isNumeralBlank
      [' ', '+', '0', '_', '\u0661', '\u00a0'] ((1 : Nat) : Int) :=
    Numeral.ofText?_eq_some_iff.1 rfl
  have hminus : Numeral.IsNumeral Text.isNumeralBlank ['-', '1'] (-1) :=
    Numeral.ofText?_eq_some_iff.1 rfl
  refine ⟨?_, ?_, (select_text []).2.2 12 (by decide) choices⟩
  · obtain ⟨_, hchosen⟩ := ((select_text _).1 1).1 hone choices (List.cons_ne_nil _ _)
    exact hchosen
  · refine (select_text ['-', '1']).2.1 (fun n hn => ?_) choices
    have := hminus.unique hn
    omega

/-- Were the information separators blanks around a numeral, this text would be one of the number
one. It selects nothing. -/
theorem select_text_separator :
    let choices : List Text := [['a'], ['b']]
    Numeral.IsNumeral Text.isBlank ['\x1c', '1'] 1 ∧
      select (.text ['\x1c', '1']) choices = .ok [] ∧
      ¬∃ _ : min 1 (choices.length - 1) < choices.length,
        select (.text ['\x1c', '1']) choices = .ok choices[min 1 (choices.length - 1)] := by
  intro choices
  have hruns : Numeral.AreRuns [['1']] := Numeral.AreRuns.single (d := 1) rfl
  have hblank : ∀ c ∈ ['\x1c'], Text.isBlank c = true := List.forall_mem_singleton.2 rfl
  have hnumeral : Numeral.IsNumeral Text.isBlank
      (['\x1c'] ++ (Numeral.Sign.none.text ++ Numeral.runsText [['1']]) ++ []) 1 :=
    .written .none hblank nofun hruns (by decide)
  refine ⟨hnumeral, ?_, ?_⟩
  · rfl
  · rintro ⟨_, hchosen⟩
    cases hchosen

end Phrasebook.Template
