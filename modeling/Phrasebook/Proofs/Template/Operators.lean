import Phrasebook.Proofs.Template.Failures
import Phrasebook.Proofs.Text.Pieces
import Phrasebook.Proofs.Value.Integers

/-!
# The operators of a span

The first colon or question mark of a span ends its reference, so what is behind it may hold both of
them again. Behind a colon nothing is looked at. Behind a question mark the choices stand with bars
between them, and the integer that the reference counts as chooses one of them, the last one if it
is too large. Where there is no such integer, or a negative one, nothing is chosen.
-/

namespace Phrasebook.Template

/-! ## The first operator -/

/-- A text that can be the reference of a span. -/
structure IsReference (reference : Text) : Prop where
  no_colon : ':' ∉ reference
  no_mark : '?' ∉ reference

namespace IsReference

variable {reference : Text}

theorem not_isOperator (h : IsReference reference) : ∀ c ∈ reference, (!isOperator c) = true := by
  intro c hc
  have hcolon : c ≠ ':' := fun heq => h.no_colon (heq ▸ hc)
  have hmark : c ≠ '?' := fun heq => h.no_mark (heq ▸ hc)
  simp [isOperator, hcolon, hmark]

/-- The reference ends at the operator behind it. -/
theorem referenceOf_append (h : IsReference reference) {operator : Char}
    (hoperator : isOperator operator = true) (tail : Text) :
    referenceOf (reference ++ operator :: tail) = reference := by
  refine takeWhile_append_stop h.not_isOperator fun c hc => ?_
  obtain rfl : operator = c := Option.some.inj hc
  simp [hoperator]

theorem operationOf_append (h : IsReference reference) {operator : Char}
    (hoperator : isOperator operator = true) (tail : Text) :
    operationOf (reference ++ operator :: tail) = operator :: tail := by
  refine dropWhile_append_stop h.not_isOperator fun c hc => ?_
  obtain rfl : operator = c := Option.some.inj hc
  simp [hoperator]

variable [Platform] {args : List Value} {value : Value}

theorem expand_eq (h : IsReference reference) (hvalue : resolve reference args = .ok value) :
    expand reference args = insert value := by
  have hreference : referenceOf reference = reference :=
    List.takeWhile_eq_self_iff.2 h.not_isOperator
  have hoperation : operationOf reference = [] :=
    List.dropWhile_eq_nil_iff.2 h.not_isOperator
  rw [expand, hreference, hvalue, hoperation]

theorem expand_colon (h : IsReference reference) (hvalue : resolve reference args = .ok value)
    (tail : Text) : expand (reference ++ ':' :: tail) args = insert value := by
  rw [expand, h.referenceOf_append rfl, hvalue, h.operationOf_append rfl]
  rfl

theorem expand_mark (h : IsReference reference) (hvalue : resolve reference args = .ok value)
    (tail : Text) :
    expand (reference ++ '?' :: tail) args = select value (Text.splitOn '|' tail) := by
  rw [expand, h.referenceOf_append rfl, hvalue, h.operationOf_append rfl]
  rfl

end IsReference

/-! ## Choosing -/

theorem select_of_countsAs {value : Value} {n : Int} (h : value.CountsAs n) (hn : 0 ≤ n)
    {choices : List Text} (hne : choices ≠ []) :
    ∃ hindex : min n.toNat (choices.length - 1) < choices.length,
      select value choices = .ok choices[min n.toNat (choices.length - 1)] := by
  have hindex : min n.toNat (choices.length - 1) < choices.length := by
    have := List.length_pos_iff.2 hne
    omega
  refine ⟨hindex, ?_⟩
  rw [select, Value.asInteger_eq_integer_iff.2 h]
  simp only [if_neg (Int.not_lt.2 hn), List.getElem?_eq_getElem hindex]

theorem select_of_countsAs_neg {value : Value} (h : ∀ n, value.CountsAs n → n < 0)
    (hfinite : ∀ negative, value ≠ .float (.infinity negative)) (choices : List Text) :
    select value choices = .ok [] := by
  rw [select]
  cases hvalue : value.asInteger with
  | none => rfl
  | infinite =>
      obtain ⟨negative, heq⟩ := asInteger_eq_infinite_iff.1 hvalue
      exact absurd heq (hfinite negative)
  | integer n => exact if_pos (h n (Value.asInteger_eq_integer_iff.1 hvalue))

/-- A colon behind a reference changes nothing, whatever follows it. Behind a question mark the
integer that the reference counts as chooses among the texts between the bars, and past the last one
it chooses that one. Without such an integer and with a negative one nothing is put in. -/
theorem expand_operators [Platform] {reference : Text} (hreference : IsReference reference)
    {args : List Value} {value : Value} (hvalue : resolve reference args = .ok value) :
    (∀ tail, expand (reference ++ ':' :: tail) args = expand reference args) ∧
      ∀ choices : List Text, choices ≠ [] → (∀ choice ∈ choices, '|' ∉ choice) →
        (∀ n, value.CountsAs n → 0 ≤ n →
          ∃ _ : min n.toNat (choices.length - 1) < choices.length,
            expand (reference ++ '?' :: Text.join ['|'] choices) args =
              .ok choices[min n.toNat (choices.length - 1)]) ∧
        ((∀ n, value.CountsAs n → n < 0) →
          (∀ negative, value ≠ .float (.infinity negative)) →
          expand (reference ++ '?' :: Text.join ['|'] choices) args = .ok []) := by
  refine ⟨fun tail => ?_, fun choices hne hbars => ?_⟩
  · rw [hreference.expand_colon hvalue, hreference.expand_eq hvalue]
  · rw [hreference.expand_mark hvalue, Text.splitOn_join hne hbars]
    exact ⟨fun n hn hle => select_of_countsAs hn hle hne,
      fun hneg hfinite => select_of_countsAs_neg hneg hfinite choices⟩

/-- A numeral past the last choice, and a float between minus three and minus two. -/
theorem expand_operators_numeral :
    let args : List Value := [.text ['+', '1', '2'], .float (.finite true 5 (-1))]
    let choices : List Text := [['a', ':', 'b'], ['c', '?', '{']]
    resolve ['0'] args = .ok (.text ['+', '1', '2']) ∧
      resolve ['1'] args = .ok (.float (.finite true 5 (-1))) ∧
      expand ['0', ':', '?', 'a', '|'] args = .ok ['+', '1', '2'] ∧
      expand (['0'] ++ '?' :: Text.join ['|'] choices) args = .ok ['c', '?', '{'] ∧
      expand (['1'] ++ '?' :: Text.join ['|'] choices) args = .ok [] := by
  intro args choices
  have hnumeral : resolve ['0'] args = .ok (.text ['+', '1', '2']) := rfl
  have hfloat : resolve ['1'] args = .ok (.float (.finite true 5 (-1))) := rfl
  have hne : choices ≠ [] := List.cons_ne_nil _ _
  have hbars : ∀ choice ∈ choices, '|' ∉ choice := by decide
  obtain ⟨hcolon, hmark⟩ := expand_operators ⟨by decide, by decide⟩ hnumeral
  obtain ⟨-, hmark'⟩ := expand_operators ⟨by decide, by decide⟩ hfloat
  refine ⟨hnumeral, hfloat, (hcolon ['?', 'a', '|']).trans rfl, ?_, ?_⟩
  · obtain ⟨_, hchosen⟩ := (hmark choices hne hbars).1 12 (.text rfl) (by decide)
    exact hchosen
  · refine (hmark' choices hne hbars).2 (fun n hn => ?_) (by simp)
    cases Value.asInteger_eq_integer_iff.2 hn
    decide

end Phrasebook.Template
