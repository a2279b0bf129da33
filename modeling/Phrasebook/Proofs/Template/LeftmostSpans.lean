import Mathlib.Data.List.Basic
import Phrasebook.Proofs.Template.Failures
import Phrasebook.Proofs.Template.Surroundings

/-!
# The spans of a fragment

A fragment is cut into literals and spans in turn, and the spans are the leftmost ones: where a span
could begin, one does, unless an earlier one goes on there. A fragment has exactly one such reading,
since the scan finds the atoms of each of them, and the atoms of a reading determine it.

An opening brace begins no span if the next closing brace stands directly behind it, or if there is
none. So such a brace is literal wherever no span is open.
-/

namespace Phrasebook.Template

/-- The text begins with a span: an opening brace, one or more characters that are no closing brace,
and a closing brace. -/
def StartsSpan (text : Text) : Prop :=
  ∃ pattern rest, text = '{' :: (pattern ++ '}' :: rest) ∧ pattern ≠ [] ∧ '}' ∉ pattern

theorem startsSpan_cons_iff {c : Char} {rest : Text} :
    StartsSpan (c :: rest) ↔ c = '{' ∧ '}' ∈ rest ∧ rest.head? ≠ some '}' := by
  constructor
  · rintro ⟨pattern, behind, heq, hne, hclose⟩
    obtain ⟨rfl, rfl⟩ := List.cons.inj heq
    obtain ⟨d, pattern, rfl⟩ := List.exists_cons_of_ne_nil hne
    refine ⟨rfl, by simp, fun hhead => hclose ?_⟩
    rw [show d = '}' from Option.some.inj hhead]
    exact List.mem_cons_self
  · rintro ⟨rfl, hclose, hhead⟩
    obtain ⟨pattern, behind, rfl, hpattern⟩ := List.eq_append_cons_of_mem hclose
    refine ⟨pattern, behind, rfl, ?_, hpattern⟩
    rintro rfl
    exact hhead rfl

/-- A fragment as literals and spans in turn. It begins and ends with a literal, and any literal may
be empty. -/
inductive Reading
  | last (literal : Text)
  /-- A literal, the pattern of the span behind it, and what is behind the span. -/
  | span (literal pattern : Text) (behind : Reading)

namespace Reading

/-- The fragment that is read so. -/
def text : Reading → Text
  | last literal => literal
  | span literal pattern behind => literal ++ '{' :: (pattern ++ '}' :: behind.text)

/-- The literals and spans in order. -/
def segments : Reading → List Segment
  | last literal => [.literal literal]
  | span literal pattern behind => .literal literal :: .span pattern :: behind.segments

/-- The fragment from a place inside a literal on. -/
inductive LiteralAt : Reading → Text → Prop
  | last {literal tail : Text} (suffix : tail <:+ literal) (ne_nil : tail ≠ []) :
    LiteralAt (.last literal) tail
  | before {literal pattern tail : Text} {behind : Reading} (suffix : tail <:+ literal)
    (ne_nil : tail ≠ []) :
    LiteralAt (.span literal pattern behind) (tail ++ '{' :: (pattern ++ '}' :: behind.text))
  | behind {literal pattern tail : Text} {behind : Reading} (within : LiteralAt behind tail) :
    LiteralAt (.span literal pattern behind) tail

/-- The patterns are what may stand in a span, and no span begins inside a literal. -/
structure IsLeftmost (reading : Reading) : Prop where
  patterns : ∀ pattern, .span pattern ∈ reading.segments → pattern ≠ [] ∧ '}' ∉ pattern
  literals : ∀ tail, LiteralAt reading tail → ¬StartsSpan tail

/-- The atoms of a literal come before those of a span, so they tell where the first span is. -/
theorem literalAtoms_append_span_inj {a b pattern other : Text} {row row' : List Atom}
    (h : literalAtoms a ++ .span pattern :: row = literalAtoms b ++ .span other :: row') :
    a = b ∧ pattern = other ∧ row = row' := by
  induction a generalizing b with
  | nil =>
      cases b with
      | nil => simpa [literalAtoms] using h
      | cons d b => simp [literalAtoms] at h
  | cons c a ih =>
      cases b with
      | nil => simp [literalAtoms] at h
      | cons d b =>
          rw [literalAtoms_cons, literalAtoms_cons, List.cons_append, List.cons_append,
            List.cons.injEq, Atom.char.injEq] at h
          obtain ⟨rfl, htail⟩ := h
          obtain ⟨rfl, hpattern, hrow⟩ := ih htail
          exact ⟨rfl, hpattern, hrow⟩

theorem not_literalAtoms_eq_append_span {a b pattern : Text} {row : List Atom} :
    ¬literalAtoms a = literalAtoms b ++ .span pattern :: row := by
  intro h
  have hmem : Atom.span pattern ∈ literalAtoms a := by
    rw [h]
    exact List.mem_append_right _ List.mem_cons_self
  simp [literalAtoms] at hmem

/-- A reading is determined by its atoms. -/
theorem eq_of_atoms {reading other : Reading}
    (h : atoms reading.segments = atoms other.segments) : reading = other := by
  induction reading generalizing other with
  | last literal =>
      cases other with
      | last literal' =>
          have hliteral : literalAtoms literal = literalAtoms literal' := by
            simpa [segments, atoms] using h
          rw [List.map_inj_right (fun _ _ => Atom.char.inj) |>.1 hliteral]
      | span literal' pattern behind =>
          have hspan : literalAtoms literal = literalAtoms literal' ++
              .span pattern :: atoms behind.segments := by
            simpa [segments, atoms] using h
          exact absurd hspan not_literalAtoms_eq_append_span
  | span literal pattern behind ih =>
      cases other with
      | last literal' =>
          have hspan : literalAtoms literal' = literalAtoms literal ++
              .span pattern :: atoms behind.segments := by
            simpa [segments, atoms] using h.symm
          exact absurd hspan not_literalAtoms_eq_append_span
      | span literal' pattern' behind' =>
          obtain ⟨rfl, rfl, hbehind⟩ := literalAtoms_append_span_inj h
          rw [ih hbehind]

end Reading

/-! ## What the scan finds -/

/-- A character that begins no span is literal. -/
theorem atoms_spans_cons {c : Char} {rest : Text} (h : ¬StartsSpan (c :: rest)) :
    atoms (spans (c :: rest)) = .char c :: atoms (spans rest) := by
  by_cases hopen : c = '{'
  · subst hopen
    by_cases hclose : '}' ∈ rest
    · have hhead : rest.head? = some '}' := by simpa [startsSpan_cons_iff, hclose] using h
      obtain ⟨behind, rfl⟩ := List.head?_eq_some_iff.1 hhead
      simp [spans, scanSpans, literalAtoms]
    · have hbrace : '}' ∉ '{' :: rest := by simpa using hclose
      rw [atoms_spans_of_no_closing hbrace, atoms_spans_of_no_closing hclose]
      rfl
  · rw [spans_cons hopen, atoms_prependText]
    rfl

/-- Text in which no span begins is literal. -/
theorem atoms_spans_append {literal behind : Text}
    (h : ∀ tail, tail <:+ literal → tail ≠ [] → ¬StartsSpan (tail ++ behind)) :
    atoms (spans (literal ++ behind)) = literalAtoms literal ++ atoms (spans behind) := by
  induction literal with
  | nil => rfl
  | cons c literal ih =>
      have hfirst : ¬StartsSpan (c :: (literal ++ behind)) :=
        h (c :: literal) List.suffix_rfl (List.cons_ne_nil c literal)
      rw [List.cons_append, atoms_spans_cons hfirst,
        ih fun tail htail => h tail (htail.trans (List.suffix_cons c literal))]
      rfl

namespace Reading.IsLeftmost

variable {literal pattern : Text} {reading behind : Reading}

theorem behind_span (h : IsLeftmost (.span literal pattern behind)) : behind.IsLeftmost where
  patterns pattern hp :=
    h.patterns pattern (List.mem_cons_of_mem _ (List.mem_cons_of_mem _ hp))
  literals tail hat := h.literals tail (.behind hat)

/-- The scan finds the atoms of each reading with leftmost spans. -/
theorem atoms_spans (h : reading.IsLeftmost) :
    atoms (spans reading.text) = atoms reading.segments := by
  induction reading with
  | last literal =>
      have hliteral : ∀ tail, tail <:+ literal → tail ≠ [] → ¬StartsSpan (tail ++ []) := by
        intro tail htail hne
        rw [List.append_nil]
        exact h.literals tail (.last htail hne)
      have hatoms := atoms_spans_append hliteral
      rwa [List.append_nil] at hatoms
  | span literal pattern behind ih =>
      obtain ⟨hne, hclose⟩ := h.patterns pattern (by simp [segments])
      rw [text, atoms_spans_append fun tail htail hne => h.literals _ (.before htail hne),
        spans_span hne hclose, atoms_span_cons, ih h.behind_span]
      rfl

/-- A fragment has at most one reading with leftmost spans. -/
theorem unique {other : Reading} (h : reading.IsLeftmost) (hother : other.IsLeftmost)
    (htext : reading.text = other.text) : reading = other := by
  apply eq_of_atoms
  rw [← h.atoms_spans, ← hother.atoms_spans, htext]

end Reading.IsLeftmost

/-! ## Every fragment has a reading -/

namespace Reading

/-- A reading with a character before its first literal. -/
def cons (c : Char) : Reading → Reading
  | last literal => .last (c :: literal)
  | span literal pattern behind => .span (c :: literal) pattern behind

@[simp] theorem text_cons (c : Char) (reading : Reading) :
    (cons c reading).text = c :: reading.text := by
  cases reading <;> rfl

theorem literalAt_cons {c : Char} {reading : Reading} {tail : Text}
    (h : LiteralAt (cons c reading) tail) : tail = c :: reading.text ∨ LiteralAt reading tail := by
  cases reading with
  | last literal =>
      cases h with
      | last suffix ne_nil =>
          rcases List.suffix_cons_iff.1 suffix with rfl | suffix
          · exact .inl rfl
          · exact .inr (.last suffix ne_nil)
  | span literal pattern behind =>
      cases h with
      | before suffix ne_nil =>
          rcases List.suffix_cons_iff.1 suffix with rfl | suffix
          · exact .inl rfl
          · exact .inr (.before suffix ne_nil)
      | behind within => exact .inr (.behind within)

theorem IsLeftmost.cons {c : Char} {reading : Reading} (h : reading.IsLeftmost)
    (hc : ¬StartsSpan (c :: reading.text)) : (Reading.cons c reading).IsLeftmost where
  patterns pattern hp := by
    apply h.patterns pattern
    cases reading with
    | last literal => simp [Reading.cons, segments] at hp
    | span literal other behind => simpa [Reading.cons, segments] using hp
  literals tail hat := by
    rcases literalAt_cons hat with rfl | hat
    · exact hc
    · exact h.literals tail hat

/-- A span with nothing before it. -/
theorem IsLeftmost.span {pattern : Text} {behind : Reading} (h : behind.IsLeftmost)
    (hne : pattern ≠ []) (hclose : '}' ∉ pattern) : (Reading.span [] pattern behind).IsLeftmost where
  patterns other hp := by
    simp only [segments, List.mem_cons, reduceCtorEq, Segment.span.injEq, false_or] at hp
    rcases hp with rfl | hp
    · exact ⟨hne, hclose⟩
    · exact h.patterns other hp
  literals tail hat := by
    cases hat with
    | before suffix ne_nil => exact absurd (List.suffix_nil.1 suffix) ne_nil
    | behind within => exact h.literals tail within

theorem exists_leftmost (fragment : Text) :
    ∃ reading : Reading, reading.text = fragment ∧ reading.IsLeftmost := by
  match fragment with
  | [] =>
      refine ⟨.last [], rfl, by simp [segments], fun tail hat => ?_⟩
      cases hat with
      | last suffix ne_nil => exact absurd (List.suffix_nil.1 suffix) ne_nil
  | c :: rest =>
      -- A span that can begin here does, and the reading goes on behind it.
      by_cases hspan : StartsSpan (c :: rest)
      · obtain ⟨pattern, after, heq, hne, hclose⟩ := hspan
        obtain ⟨behind, rfl, hbehind⟩ := exists_leftmost after
        exact ⟨.span [] pattern behind, heq.symm, hbehind.span hne hclose⟩
      · obtain ⟨reading, rfl, hreading⟩ := exists_leftmost rest
        exact ⟨cons c reading, text_cons c reading, hreading.cons hspan⟩
termination_by fragment.length
decreasing_by
  · have hlength := congrArg List.length heq
    simp only [List.length_cons, List.length_append] at hlength ⊢
    omega
  · exact Nat.lt_succ_self _

end Reading

/-! ## Filling -/

theorem Reading.IsLeftmost.interpolate_eq [Platform] {reading : Reading} (h : reading.IsLeftmost)
    (args : List Value) : interpolate reading.text args = render args reading.segments := by
  rw [interpolate_eq_renderAtoms, h.atoms_spans, render_eq_renderAtoms]

/-- Text without closing braces behind a fragment is literal, opening braces included. -/
theorem interpolate_append [Platform] {text : Text} (h : '}' ∉ text) (fragment : Text)
    (args : List Value) :
    interpolate (fragment ++ text) args = (interpolate fragment args).map (· ++ text) := by
  rw [interpolate_eq_renderAtoms, spans, atoms_scanSpans_append h, renderAtoms_append_literalAtoms,
    interpolate_eq_renderAtoms, spans]

/-- Behind each opening brace there is a closing one, so that no span is open at the end. -/
def IsClosed (fragment : Text) : Prop :=
  ∀ rest, '{' :: rest <:+ fragment → '}' ∈ rest

theorem IsClosed.tail {c : Char} {fragment : Text} (h : IsClosed (c :: fragment)) :
    IsClosed fragment :=
  fun rest hrest => h rest (hrest.trans (List.suffix_cons c fragment))

theorem isClosed_of_getLast? {fragment : Text} (h : fragment.getLast? = some '}') :
    IsClosed fragment := by
  rintro rest ⟨before, rfl⟩
  rw [List.getLast?_append_cons] at h
  cases rest with
  | nil => cases h
  | cons c rest => exact List.mem_of_getLast? h

theorem atoms_scanSpans_append_of_isClosed {before : Text} (h : IsClosed before)
    {pending : Option Text} (hpending : pending.isSome → '}' ∈ before) (rest : Text) :
    atoms (scanSpans pending (before ++ rest)) =
      atoms (scanSpans pending before) ++ atoms (scanSpans none rest) := by
  -- An open pattern is closed within the first part, so the scan is outside of spans at its end.
  fun_induction scanSpans pending before with
  | case1 => rfl
  | case2 read => exact absurd (hpending rfl) List.not_mem_nil
  | case3 before ih =>
      have hclose : '}' ∈ before := h before List.suffix_rfl
      simpa [scanSpans] using ih h.tail fun _ => hclose
  | case4 c before hc ih => simp [scanSpans, hc, ih h.tail (by simp)]
  | case5 read c before hc ih =>
      have hclose : '}' ∈ before := (List.mem_cons.1 (hpending rfl)).resolve_left hc.symm
      simpa [scanSpans, hc] using ih h.tail fun _ => hclose
  | case6 read c before hc hread ih => simp_all [scanSpans, h.tail]
  | case7 read c before hc hread ih => simp_all [scanSpans, h.tail]

/-- Where no span is open, a fragment can be filled part by part. -/
theorem interpolate_append_of_isClosed [Platform] {before : Text} (h : IsClosed before)
    (rest : Text) (args : List Value) :
    interpolate (before ++ rest) args =
      (interpolate before args).bind fun text => (interpolate rest args).map (text ++ ·) := by
  have hatoms : atoms (spans (before ++ rest)) = atoms (spans before ++ spans rest) := by
    rw [spans, atoms_scanSpans_append_of_isClosed h (by simp), atoms_append, spans, spans]
  rw [interpolate_eq_renderAtoms, hatoms, ← render_eq_renderAtoms, render_append,
    ← interpolate_eq_render, ← interpolate_eq_render]

/-- A closing brace directly behind an opening one makes no span. -/
theorem interpolate_empty_braces [Platform] (rest : Text) (args : List Value) :
    interpolate ('{' :: '}' :: rest) args = (interpolate rest args).map ('{' :: '}' :: ·) := by
  have hatoms : atoms (spans ('{' :: '}' :: rest)) =
      literalAtoms ['{', '}'] ++ atoms (spans rest) := by
    simp [spans, scanSpans]
  rw [interpolate_eq_renderAtoms, hatoms, renderAtoms_literalAtoms_append,
    interpolate_eq_renderAtoms]
  rfl

/-- A fragment can be written in exactly one way as literals and spans in turn such that no span
begins inside a literal. What comes out is these literals and the texts of these spans in order, or
the error of the first span that has none. So an opening brace without a closing one behind it stays
with all that follows it, and so do an opening and a closing brace side by side where no span is
open. -/
theorem interpolate_leftmost [Platform] (fragment : Text) :
    (∃! reading : Reading, reading.text = fragment ∧ reading.IsLeftmost) ∧
      (∀ reading : Reading, reading.text = fragment → reading.IsLeftmost → ∀ args,
        (∀ value,
          (∀ pattern, .span pattern ∈ reading.segments →
            expand pattern args = .ok (value pattern)) →
          interpolate fragment args =
            .ok (reading.segments.flatMap (Segment.textWith value))) ∧
        ∀ e, interpolate fragment args = .error e ↔ FailsFirst args reading.segments e) ∧
      (∀ text args, '}' ∉ text →
        interpolate (fragment ++ text) args = (interpolate fragment args).map (· ++ text)) ∧
      ∀ rest args, IsClosed fragment →
        interpolate (fragment ++ '{' :: '}' :: rest) args =
          (interpolate fragment args).bind fun before =>
            (interpolate rest args).map (before ++ '{' :: '}' :: ·) := by
  refine ⟨?_, ?_, fun text args h => interpolate_append h fragment args, ?_⟩
  · obtain ⟨reading, htext, hreading⟩ := Reading.exists_leftmost fragment
    refine ⟨reading, ⟨htext, hreading⟩, fun other hother => ?_⟩
    exact hother.2.unique hreading (hother.1.trans htext.symm)
  · rintro reading rfl hreading args
    rw [hreading.interpolate_eq]
    exact ⟨fun value => render_of_values, fun e => render_eq_error_iff⟩
  · intro rest args h
    rw [interpolate_append_of_isClosed h, interpolate_empty_braces]
    cases interpolate fragment args with
    | error e => rfl
    | ok before => cases interpolate rest args <;> rfl

/-- Braces side by side, and an opening brace within the pattern of the span behind them. Of the
braces that come after, the first one is never closed. -/
theorem interpolate_leftmost_mixed :
    let fragment : Text := ['{', '}', '{', 'b', '{', '0', '}']
    let reading : Reading := .span ['{', '}'] ['b', '{', '0'] (.last [])
    let args : List Value := [.mapping [(['b', '{', '0'], .integer 7)]]
    reading.text = fragment ∧ reading.IsLeftmost ∧ IsClosed fragment ∧
      interpolate fragment args = .ok ['{', '}', '7'] ∧
      interpolate (fragment ++ ['c', '{', '1']) args = .ok ['{', '}', '7', 'c', '{', '1'] ∧
      interpolate (fragment ++ ['{', '}', '0']) args = .ok ['{', '}', '7', '{', '}', '0'] := by
  intro fragment reading args
  obtain ⟨-, hfill, happend, hempty⟩ := interpolate_leftmost fragment
  have hspan : (Reading.span [] ['b', '{', '0'] (.last [])).IsLeftmost := by
    refine Reading.IsLeftmost.span ⟨by simp [Reading.segments], fun tail hat => ?_⟩ (by decide)
      (by decide)
    cases hat with
    | last suffix ne_nil => exact absurd (List.suffix_nil.1 suffix) ne_nil
  have hreading : reading.IsLeftmost :=
    (hspan.cons (c := '}') (by simp [startsSpan_cons_iff])).cons (c := '{')
      (by simp [startsSpan_cons_iff])
  have hclosed : IsClosed fragment := isClosed_of_getLast? rfl
  have hvalue : interpolate fragment args = .ok ['{', '}', '7'] := by
    refine (hfill reading rfl hreading args).1 (fun _ => ['7']) fun pattern hp => ?_
    obtain rfl : pattern = ['b', '{', '0'] := by simpa [reading, Reading.segments] using hp
    rfl
  refine ⟨rfl, hreading, hclosed, hvalue, ?_, ?_⟩
  · rw [happend _ _ (by decide), hvalue]
    rfl
  · rw [show fragment ++ ['{', '}', '0'] = fragment ++ '{' :: '}' :: ['0'] from rfl,
      hempty ['0'] args hclosed, hvalue, interpolate_eq_render]
    rfl

end Phrasebook.Template
