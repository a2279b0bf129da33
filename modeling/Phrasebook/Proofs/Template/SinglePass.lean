import Phrasebook.Proofs.Template.RoundTrip
import Phrasebook.Proofs.Text.Pieces

/-!
# One pass over a template

The segments of a template are found before any argument is looked at, and filling them puts the
texts of the spans between the literals and looks at nothing again. So a text that comes from an
argument may hold braces and operators: they are not read as such.

Splitting a template loses nothing, so what is found in a fragment stands in the template as it is.
In particular a pattern begins with no opening brace and has no two of them side by side, since
every such pair was split at before.
-/

namespace Phrasebook.Template

/-! ## Splitting loses nothing -/

theorem join_splitClosing (t : Text) : Text.join ['}', '}'] (splitClosing t) = t := by
  fun_induction splitClosing t with
  | case1 => rfl
  | case2 => rfl
  | case3 c d rest h ih =>
      obtain ⟨rfl, rfl, -⟩ := h
      rw [Text.join_nil_cons _ (splitClosing_ne_nil rest), ih]
      rfl
  | case4 c d rest h ih => rw [Text.join_modifyHead_cons _ c (splitClosing_ne_nil _), ih]

/-- No piece has a doubled opening brace. -/
theorem not_doubled_of_mem_splitOpening {t piece : Text} (h : piece ∈ splitOpening t) :
    ¬['{', '{'] <:+: piece := by
  fun_induction splitOpening t generalizing piece with
  | case1 =>
      obtain rfl := List.mem_singleton.1 h
      simp
  | case2 c =>
      obtain rfl := List.mem_singleton.1 h
      intro hpair
      have := hpair.length_le
      simp at this
  | case3 c d rest hpair ih =>
      rcases List.mem_cons.1 h with rfl | h
      · simp
      · exact ih h
  | case4 c d rest hpair ih =>
      obtain ⟨first, pieces, hsplit⟩ :=
        List.exists_cons_of_ne_nil (splitOpening_ne_nil (d :: rest))
      rw [hsplit, List.modifyHead_cons] at h
      rw [hsplit] at ih
      rcases List.mem_cons.1 h with rfl | h
      · rw [List.infix_cons_iff, List.cons_prefix_cons]
        rintro (⟨rfl, hfirst⟩ | hpart)
        · -- The first piece begins like the text, which has no brace there.
          rcases first_piece (d :: rest) with ⟨-, _, hs⟩ | ⟨-, c, r, f, _, heq, hs⟩
          · obtain ⟨rfl, -⟩ := List.cons.inj (hsplit.symm.trans hs)
            simp at hfirst
          · obtain ⟨rfl, -⟩ := List.cons.inj (hsplit.symm.trans hs)
            obtain ⟨rfl, -⟩ := List.cons.inj heq
            exact hpair ⟨rfl, (List.cons_prefix_cons.1 hfirst).1.symm⟩
        · exact ih List.mem_cons_self hpart
      · exact ih (List.mem_cons_of_mem first h)

/-! ## Patterns -/

theorem span_mem_prependText_iff {pattern text : Text} {row : List Segment} :
    .span pattern ∈ prependText text row ↔ .span pattern ∈ row := by
  unfold prependText
  split
  · simp
  · simp

theorem span_mem_joinSegments {pattern separator : Text} {rows : List (List Segment)}
    (h : .span pattern ∈ joinSegments separator rows) : ∃ row ∈ rows, .span pattern ∈ row := by
  induction rows with
  | nil => cases h
  | cons row rest ih =>
      cases rest with
      | nil => exact ⟨row, List.mem_cons_self, h⟩
      | cons next rest =>
          rw [joinSegments, List.mem_append, List.mem_cons] at h
          · rcases h with h | h | h
            · exact ⟨row, List.mem_cons_self, h⟩
            · cases h
            · obtain ⟨other, hother, hspan⟩ := ih h
              exact ⟨other, List.mem_cons_of_mem row hother, hspan⟩
          · exact List.cons_ne_nil next rest

/-- An opening brace that is pending and the characters read after it, as they stand in the
text. -/
def pendingText : Option Text → Text
  | none => []
  | some read => '{' :: read.reverse

/-- What a scan finds as a pattern stands between two braces of the text. -/
theorem infix_of_span_mem_scanSpans {pattern : Text} {pending : Option Text} {text : Text}
    (hpending : ∀ read, pending = some read → '}' ∉ read)
    (h : .span pattern ∈ scanSpans pending text) :
    pattern ≠ [] ∧ '}' ∉ pattern ∧ '{' :: pattern <:+: pendingText pending ++ text := by
  fun_induction scanSpans pending text with
  | case1 => cases h
  | case2 read => simp at h
  | case3 rest ih => exact ih (by simp) h
  | case4 c rest hc ih =>
      obtain ⟨hne, hclose, hpart⟩ := ih (by simp) (span_mem_prependText_iff.1 h)
      exact ⟨hne, hclose, hpart.trans (List.suffix_cons c rest).isInfix⟩
  | case5 read c rest hc ih =>
      have hread : '}' ∉ c :: read := by
        simpa using ⟨hc.symm, hpending read rfl⟩
      obtain ⟨hne, hclose, hpart⟩ := ih (by simpa using hread) h
      refine ⟨hne, hclose, ?_⟩
      simpa [pendingText] using hpart
  | case6 read c rest hc hread ih =>
      obtain ⟨hne, hclose, hpart⟩ := ih (by simp) (span_mem_prependText_iff.1 h)
      exact ⟨hne, hclose, (hpart.trans (List.suffix_cons c rest).isInfix).trans
        (List.suffix_append _ _).isInfix⟩
  | case7 read c rest hc hread ih =>
      rcases List.mem_cons.1 h with heq | h
      · cases heq
        refine ⟨by simpa using hread, by simpa using hpending read rfl, ?_⟩
        exact (List.prefix_append _ _).isInfix
      · obtain ⟨hne, hclose, hpart⟩ := ih (by simp) h
        exact ⟨hne, hclose, (hpart.trans (List.suffix_cons c rest).isInfix).trans
          (List.suffix_append _ _).isInfix⟩

/-- Behind an opening brace of a text without two of them side by side, no other one follows. -/
theorem isPattern_of_infix {pattern text : Text} (hne : pattern ≠ []) (hclose : '}' ∉ pattern)
    (hpart : '{' :: pattern <:+: text) (htext : ¬['{', '{'] <:+: text) : IsPattern pattern where
  ne_nil := hne
  no_closing := hclose
  not_opening := by
    intro hhead
    obtain ⟨rest, rfl⟩ : ∃ rest, pattern = '{' :: rest := by
      cases pattern with
      | nil => cases hhead
      | cons c rest =>
          cases hhead
          exact ⟨rest, rfl⟩
    exact htext ((List.prefix_append ['{', '{'] rest).isInfix.trans hpart)
  no_doubled := fun hpair =>
    htext ((hpair.trans (List.suffix_cons '{' pattern).isInfix).trans hpart)

/-- What stands between the braces of a span is a pattern. -/
theorem isPattern_of_span_mem_segments {template pattern : Text}
    (h : .span pattern ∈ segments template) : IsPattern pattern := by
  obtain ⟨row, hrow, h⟩ := span_mem_joinSegments h
  obtain ⟨piece, hpiece, rfl⟩ := List.mem_map.1 hrow
  obtain ⟨row, hrow, h⟩ := span_mem_joinSegments h
  obtain ⟨fragment, hfragment, rfl⟩ := List.mem_map.1 hrow
  obtain ⟨hne, hclose, hpart⟩ := infix_of_span_mem_scanSpans (by simp) h
  have hfragment' : fragment <:+: piece := by
    rw [← join_splitClosing piece]
    exact Text.infix_join_of_mem hfragment
  exact isPattern_of_infix hne hclose hpart fun hpair =>
    not_doubled_of_mem_splitOpening hpiece (hpair.trans hfragment')

/-! ## Filling -/

variable [Platform] {args : List Value}

/-- A span looks at the arguments only through its reference. -/
theorem expand_congr {pattern : Text} {a b : List Value}
    (h : resolve (referenceOf pattern) a = resolve (referenceOf pattern) b) :
    expand pattern a = expand pattern b := by
  rw [expand, expand, h]

theorem render_congr {a b : List Value} {row : List Segment}
    (h : ∀ pattern, .span pattern ∈ row → expand pattern a = expand pattern b) :
    render a row = render b row := by
  induction row with
  | nil => rfl
  | cons segment rest ih =>
      have hrest := ih fun pattern hp => h pattern (List.mem_cons_of_mem _ hp)
      have hfirst : segment.render a = segment.render b := by
        cases segment with
        | literal text => rfl
        | span pattern => exact h pattern List.mem_cons_self
      rw [render, render, hfirst, hrest]

/-- The first span that cannot be filled gives the error of the whole row. -/
theorem render_of_error {before after : List Segment} {pattern : Text} {e : FormatError}
    (hbefore : ∀ earlier, .span earlier ∈ before → ∃ text, expand earlier args = .ok text)
    (he : expand pattern args = .error e) :
    render args (before ++ .span pattern :: after) = .error e := by
  induction before with
  | nil => rw [List.nil_append, render, Segment.render, he]
  | cons segment rest ih =>
      have hrest := ih fun earlier hp => hbefore earlier (List.mem_cons_of_mem _ hp)
      obtain ⟨text, hfirst⟩ : ∃ text, segment.render args = .ok text := by
        cases segment with
        | literal text => exact ⟨text, rfl⟩
        | span earlier => exact hbefore earlier List.mem_cons_self
      rw [List.cons_append, render, hfirst, hrest]

/-- Filling a template goes over it once: there are segments that do not depend on the arguments,
and what comes out is, from left to right, their literals and the texts of their spans, or the error
of the first span that has none. Arguments to which the references of the spans give the same values
are filled in alike. -/
theorem format_single_pass (template : Text) :
    ∃ row : List Segment,
      (∀ pattern, .span pattern ∈ row → IsPattern pattern) ∧
      (∀ args value,
        (∀ pattern, .span pattern ∈ row → expand pattern args = .ok (value pattern)) →
        format template args = .ok (row.flatMap (Segment.textWith value))) ∧
      (∀ args before pattern after e, row = before ++ .span pattern :: after →
        (∀ earlier, .span earlier ∈ before → ∃ text, expand earlier args = .ok text) →
        expand pattern args = .error e →
        format template args = .error e) ∧
      ∀ a b,
        (∀ pattern, .span pattern ∈ row →
          resolve (referenceOf pattern) a = resolve (referenceOf pattern) b) →
        format template a = format template b := by
  refine ⟨segments template, ?_, ?_, ?_, ?_⟩
  · intro pattern h
    exact isPattern_of_span_mem_segments h
  · intro args value hvalue
    rw [format_eq_render]
    exact render_of_values hvalue
  · intro args before pattern after e hrow hbefore he
    rw [format_eq_render, hrow]
    exact render_of_error hbefore he
  · intro a b h
    rw [format_eq_render, format_eq_render]
    exact render_congr fun pattern hp => expand_congr (h pattern hp)

/-- A text with braces and a question mark is put in as it is. -/
example : format "\x7b0\x7d-\x7b1?a|\x7bb|c\x7d".toList
      [.text "\x7b1\x7d\x7d?|".toList, .integer 1] =
    .ok "\x7b1\x7d\x7d?|-\x7bb".toList := by
  rw [format_eq_render]
  rfl

end Phrasebook.Template
