import Phrasebook.Proofs.Template.References
import Phrasebook.Proofs.Template.SinglePass

/-!
# When a template cannot be filled

Braces never make a template fail: what is no span is literal. A span fails in two cases. Its
reference writes a position with more digits than can be converted, or it selects by an infinite
float. Besides, a value that cannot be written at all cannot be put in. In particular a selector
always has something to choose from, since splitting the text behind the question mark gives at
least one choice. A template fails where one of its spans does, with the error of the first one.
-/

namespace Phrasebook.Template

/-- How a span fails for some arguments. -/
inductive SpanFails [Platform] (args : List Value) (pattern : Text) : FormatError → Prop
  /-- The reference writes a position of too many digits, whatever the operator. -/
  | position {digits : Text} (written : WritesPosition (referenceOf pattern) digits)
      (long : 4300 < digits.length) : SpanFails args pattern (.numeralTooLong digits.length)
  /-- The operator is a question mark, and the reference stands for an infinite float. -/
  | infinite {choices : Text} {negative : Bool} (operator : operationOf pattern = '?' :: choices)
      (value : resolve (referenceOf pattern) args = .ok (.float (.infinity negative))) :
      SpanFails args pattern .infiniteIndex

/-- The span is to put in a value that cannot be written. -/
def PutsUnwritable [Platform] (args : List Value) (pattern : Text) : Prop :=
  (operationOf pattern).head? ≠ some '?' ∧
    ∃ value, resolve (referenceOf pattern) args = .ok value ∧ value.hasText = false

/-- Only an infinite float counts as infinite. -/
theorem asInteger_eq_infinite_iff {value : Value} :
    value.asInteger = .infinite ↔ ∃ negative, value = .float (.infinity negative) := by
  have hread : ∀ n : Option Int, Value.AsInteger.ofOption n ≠ .infinite := by
    intro n
    cases n <;> simp [Value.AsInteger.ofOption]
  cases value with
  | float x => cases x <;> simp [Value.asInteger]
  | text s => simp [Value.asInteger, hread]
  | bytes b => simp [Value.asInteger, hread]
  | _ => simp [Value.asInteger]

/-- Among choices there is always the one that an index comes to. -/
theorem select_eq_error_iff {value : Value} {choices : List Text} (hne : choices ≠ [])
    {e : FormatError} :
    select value choices = .error e ↔
      (∃ negative, value = .float (.infinity negative)) ∧ e = .infiniteIndex := by
  rw [← asInteger_eq_infinite_iff, select]
  cases value.asInteger with
  | none => simp
  | infinite => simp [eq_comm]
  | integer n =>
      have hindex : min n.toNat (choices.length - 1) < choices.length := by
        have := List.length_pos_iff.2 hne
        omega
      have hchoice := List.getElem?_eq_getElem hindex
      by_cases hn : n < 0
      · simp [hn]
      · simp [hn, hchoice]

/-- Only a value that holds an integer of too many digits cannot be put in. -/
theorem insert_eq_error_iff {value : Value} {e : FormatError} :
    insert value = .error e ↔ value.hasText = false ∧ e = .integerTooLong := by
  rw [insert]
  cases value.hasText <;> simp [eq_comm]

theorem expand_eq_error_iff [Platform] {pattern : Text} {args : List Value} {e : FormatError} :
    expand pattern args = .error e ↔
      SpanFails args pattern e ∨ PutsUnwritable args pattern ∧ e = .integerTooLong := by
  constructor
  · intro h
    unfold expand at h
    split at h
    · rename_i e' hresolve
      cases h
      obtain ⟨digits, hwritten, hlong, rfl⟩ := resolve_eq_error_iff.1 hresolve
      exact .inl (.position hwritten hlong)
    · rename_i value hresolve
      split at h
      · rename_i choices hoperator
        obtain ⟨⟨negative, rfl⟩, rfl⟩ := (select_eq_error_iff (Text.splitOn_ne_nil _ _)).1 h
        exact .inl (.infinite hoperator hresolve)
      · rename_i hoperator
        obtain ⟨hvalue, rfl⟩ := insert_eq_error_iff.1 h
        refine .inr ⟨⟨fun hmark => ?_, value, hresolve, hvalue⟩, rfl⟩
        obtain ⟨choices, heq⟩ := List.head?_eq_some_iff.1 hmark
        exact hoperator choices heq
  · rintro (h | ⟨⟨hmark, value, hresolve, hvalue⟩, rfl⟩)
    · cases h with
      | position hwritten hlong =>
          rw [expand, resolve_eq_error_iff.2 ⟨_, hwritten, hlong, rfl⟩]
      | @infinite choices negative hoperator hvalue =>
          rw [expand, hvalue, hoperator]
          exact (select_eq_error_iff (Text.splitOn_ne_nil '|' choices)).2 ⟨⟨negative, rfl⟩, rfl⟩
    · rw [expand, hresolve]
      dsimp only
      split
      · rename_i choices hoperator
        exact absurd (congrArg List.head? hoperator) hmark
      · exact insert_eq_error_iff.2 ⟨hvalue, rfl⟩

theorem exists_expand_eq_ok_iff [Platform] {pattern : Text} {args : List Value} :
    (∃ text, expand pattern args = .ok text) ↔
      ¬PutsUnwritable args pattern ∧ ∀ e, ¬SpanFails args pattern e := by
  constructor
  · rintro ⟨text, htext⟩
    refine ⟨fun hputs => ?_, fun e hfails => ?_⟩
    · have := expand_eq_error_iff.2 (.inr ⟨hputs, rfl⟩)
      simp [htext] at this
    · have := expand_eq_error_iff.2 (.inl hfails)
      simp [htext] at this
  · rintro ⟨hputs, hfails⟩
    cases hvalue : expand pattern args with
    | ok text => exact ⟨text, rfl⟩
    | error e =>
        obtain h | ⟨h, -⟩ := expand_eq_error_iff.1 hvalue
        · exact absurd h (hfails e)
        · exact absurd h hputs

/-- The first span of a row that fails, and its error. -/
def FailsFirst [Platform] (args : List Value) (row : List Segment) (e : FormatError) : Prop :=
  ∃ before pattern after, row = before ++ .span pattern :: after ∧
    (∀ earlier, .span earlier ∈ before → ∃ text, expand earlier args = .ok text) ∧
    expand pattern args = .error e

theorem FailsFirst.cons [Platform] {args : List Value} {row : List Segment} {e : FormatError}
    (h : FailsFirst args row e) {segment : Segment} {text : Text}
    (hsegment : segment.render args = .ok text) : FailsFirst args (segment :: row) e := by
  obtain ⟨before, pattern, after, rfl, hbefore, he⟩ := h
  refine ⟨segment :: before, pattern, after, rfl, fun earlier hmem => ?_, he⟩
  rcases List.mem_cons.1 hmem with rfl | hmem
  · exact ⟨text, hsegment⟩
  · exact hbefore earlier hmem

theorem render_eq_error_iff [Platform] {args : List Value} {row : List Segment} {e : FormatError} :
    render args row = .error e ↔ FailsFirst args row e := by
  constructor
  · intro h
    induction row with
    | nil => cases h
    | cons segment rest ih =>
        rw [render] at h
        split at h
        · rename_i e' hfirst
          cases h
          cases segment with
          | literal text => cases hfirst
          | span pattern => exact ⟨[], pattern, rest, rfl, by simp, hfirst⟩
        · rename_i text hfirst
          split at h
          · rename_i e' hrest
            cases h
            exact (ih hrest).cons hfirst
          · cases h
  · rintro ⟨before, pattern, after, rfl, hbefore, he⟩
    exact render_of_error hbefore he

/-- A row has a text exactly if each of its spans has one. -/
theorem exists_render_eq_ok_iff [Platform] {args : List Value} {row : List Segment} :
    (∃ text, render args row = .ok text) ↔
      ∀ pattern, .span pattern ∈ row → ∃ text, expand pattern args = .ok text := by
  constructor
  · rintro ⟨text, htext⟩
    induction row generalizing text with
    | nil => simp
    | cons segment rest ih =>
        rw [render] at htext
        split at htext
        · cases htext
        · rename_i first hfirst
          split at htext
          · cases htext
          · rename_i others hrest
            intro pattern hmem
            rcases List.mem_cons.1 hmem with rfl | hmem
            · exact ⟨first, hfirst⟩
            · exact ih others hrest pattern hmem
  · intro h
    cases hrender : render args row with
    | ok text => exact ⟨text, rfl⟩
    | error e =>
        obtain ⟨before, pattern, after, rfl, -, he⟩ := render_eq_error_iff.1 hrender
        obtain ⟨text, htext⟩ := h pattern (by simp)
        rw [he] at htext
        cases htext

/-- Filling a template fails exactly where a span of it does, with the error of the first such span.
A span fails exactly where its reference writes a position of more than 4300 digits, where it
selects by an infinite float, or where a value is put in that cannot be written. Every other
template comes to a text, however its braces stand, and no selector is left without a choice. -/
theorem format_fails_iff [Platform] (template : Text) (args : List Value) :
    (∀ e, format template args = .error e ↔ FailsFirst args (segments template) e) ∧
      (∀ pattern e, expand pattern args = .error e ↔
        SpanFails args pattern e ∨ PutsUnwritable args pattern ∧ e = .integerTooLong) ∧
      ((∃ text, format template args = .ok text) ↔
        ∀ pattern, .span pattern ∈ segments template →
          ¬PutsUnwritable args pattern ∧ ∀ e, ¬SpanFails args pattern e) ∧
      format template args ≠ .error .noChoices := by
  rw [format_eq_render]
  refine ⟨fun e => render_eq_error_iff, fun pattern e => expand_eq_error_iff, ?_, ?_⟩
  · rw [exists_render_eq_ok_iff]
    exact forall₂_congr fun pattern _ => exists_expand_eq_ok_iff
  · intro h
    obtain ⟨before, pattern, after, -, -, he⟩ := render_eq_error_iff.1 h
    obtain hfails | ⟨-, heq⟩ := expand_eq_error_iff.1 he
    · cases hfails
    · cases heq

/-- A selector by infinity fails, but not where a colon comes before the question mark. -/
example :
    format "\x7b0:?a\x7d\x7b0?a\x7d".toList [.float (.infinity true)] = .error .infiniteIndex ∧
      format "\x7b0:?a\x7d\x7b".toList [.float (.infinity true)] = .ok "-inf\x7b".toList := by
  rw [format_eq_render, format_eq_render]
  exact ⟨rfl, rfl⟩

end Phrasebook.Template
