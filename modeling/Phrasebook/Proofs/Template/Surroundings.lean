import Phrasebook.Proofs.Template.SinglePass

/-!
# Plain text around a template

Text without braces that stands before a template is taken over character by character. Text
without braces behind a template goes to the end of its last fragment, where it opens and closes no
span. It has one effect: closing braces at the end of the template are not at the end of the text
any more. At the end only the last pair of a run counts and elsewhere every pair does, which is the
same for a run of up to three braces and differs from four on.
-/

namespace Phrasebook.Template

/-- Text without braces. -/
structure IsPlain (text : Text) : Prop where
  no_opening : '{' ∉ text
  no_closing : '}' ∉ text

theorem IsPlain.tail {c : Char} {text : Text} (h : IsPlain (c :: text)) : IsPlain text where
  no_opening := fun hc => h.no_opening (List.mem_cons_of_mem c hc)
  no_closing := fun hc => h.no_closing (List.mem_cons_of_mem c hc)

theorem IsPlain.head_ne {c : Char} {text : Text} (h : IsPlain (c :: text)) : c ≠ '{' ∧ c ≠ '}' :=
  ⟨fun hc => h.no_opening (hc ▸ List.mem_cons_self),
    fun hc => h.no_closing (hc ▸ List.mem_cons_self)⟩

/-! ## Before a template -/

theorem parse_plain_append {plain : Text} (h : IsPlain plain) (template : Text) :
    parse (plain ++ template) = literalAtoms plain ++ parse template := by
  induction plain with
  | nil => rfl
  | cons c rest ih =>
      rw [List.cons_append, parse_cons h.head_ne.1 h.head_ne.2, ih h.tail]
      rfl

/-! ## Behind a template -/

/-- The same pieces, but for some text behind the last one. -/
def ExtendsLast (text : Text) (pieces extended : List Text) : Prop :=
  ∃ before last, pieces = before ++ [last] ∧ extended = before ++ [last ++ text]

namespace ExtendsLast

variable {text : Text} {pieces extended : List Text}

theorem single (piece : Text) : ExtendsLast text [piece] [piece ++ text] :=
  ⟨[], piece, rfl, rfl⟩

theorem cons (h : ExtendsLast text pieces extended) (piece : Text) :
    ExtendsLast text (piece :: pieces) (piece :: extended) := by
  obtain ⟨before, last, rfl, rfl⟩ := h
  exact ⟨piece :: before, last, rfl, rfl⟩

theorem modifyHead (h : ExtendsLast text pieces extended) (c : Char) :
    ExtendsLast text (pieces.modifyHead (c :: ·)) (extended.modifyHead (c :: ·)) := by
  obtain ⟨before, last, rfl, rfl⟩ := h
  cases before with
  | nil => exact single (c :: last)
  | cons piece before => exact ⟨(c :: piece) :: before, last, rfl, rfl⟩

theorem glue (h : pieces ≠ []) : ExtendsLast text pieces (Template.glue pieces [text]) := by
  induction pieces with
  | nil => exact absurd rfl h
  | cons piece rest ih =>
      cases rest with
      | nil => exact single piece
      | cons next rest => exact (ih (List.cons_ne_nil next rest)).cons piece

end ExtendsLast

theorem splitOpening_of_not_mem {text : Text} (h : '{' ∉ text) : splitOpening text = [text] := by
  induction text with
  | nil => rfl
  | cons c rest ih =>
      obtain ⟨hc, hrest⟩ := not_or.1 (mt List.mem_cons.2 h)
      rw [splitOpening_cons fun heq => absurd heq.symm hc, ih hrest]
      rfl

/-- No doubled opening brace begins in a template and ends in the text behind it. -/
theorem extendsLast_splitOpening {text : Text} (h : '{' ∉ text) (template : Text) :
    ExtendsLast text (splitOpening template) (splitOpening (template ++ text)) := by
  fun_induction splitOpening template with
  | case1 =>
      rw [List.nil_append, splitOpening_of_not_mem h]
      exact .single []
  | case2 c =>
      have hhead : c = '{' → text.head? ≠ some '{' := fun _ heq =>
        h (List.mem_of_head? heq)
      rw [List.singleton_append, splitOpening_cons hhead, splitOpening_of_not_mem h]
      exact .single [c]
  | case3 c d rest hpair ih =>
      obtain ⟨rfl, rfl⟩ := hpair
      rw [List.cons_append, List.cons_append, splitOpening_doubled]
      exact ih.cons []
  | case4 c d rest hpair ih =>
      rw [List.cons_append, List.cons_append, splitOpening, if_neg hpair]
      exact ih.modifyHead c

/-- Whether two closing braces count does not depend on text behind the template, unless four or
more closing braces end the template. -/
theorem closes_append {rest text : Text} (htext : '}' ∉ text)
    (hrest : ¬['}', '}', '}', '}'] <:+ '}' :: '}' :: rest) :
    closes (rest ++ text) = closes rest := by
  cases text with
  | nil => rw [List.append_nil]
  | cons c text =>
      have hc : c ≠ '}' := fun hc => htext (hc ▸ List.mem_cons_self)
      obtain ⟨n, after, rfl, hafter⟩ := exists_run rest
      cases after with
      | nil =>
          -- The run ends the template, so it has at most one brace besides the pair.
          have hn : n < 2 := by
            refine Nat.lt_of_not_le fun hn => hrest ⟨List.replicate (n - 2) '}', ?_⟩
            change _ ++ List.replicate 4 '}' = List.replicate (n + 2) '}' ++ []
            rw [List.replicate_append_replicate, List.append_nil]
            congr 1
            omega
          have hhead : (c :: text).head? ≠ some '}' := by simpa using hc
          rw [List.append_nil, closes_run n hhead, ← List.append_nil (List.replicate n '}'),
            closes_run n (by simp)]
          match n, hn with
          | 0, _ => rfl
          | 1, _ => rfl
      | cons d after => exact closes_run_append n hafter (c :: text)

theorem extendsLast_splitClosing {text : Text} (htext : '}' ∉ text) {piece : Text}
    (hpiece : ¬['}', '}', '}', '}'] <:+ piece) :
    ExtendsLast text (splitClosing piece) (splitClosing (piece ++ text)) := by
  have hsingle : splitClosing (text ++ []) = [text ++ []] := splitClosing_append htext []
  rw [List.append_nil] at hsingle
  have hpairs : ∀ rest, '}' :: '}' :: rest <:+ piece → closes (rest ++ text) = closes rest :=
    fun rest hrest => closes_append htext fun h => hpiece (h.trans hrest)
  have hhead : text.head? ≠ some '}' := fun h => htext (List.mem_of_head? h)
  rw [splitClosing_append_eq_glue hpairs fun _ => hhead, hsingle]
  exact .glue (splitClosing_ne_nil piece)

/-- Text without closing braces is literal behind any part of a fragment, whether or not a span is
open. -/
theorem atoms_scanSpans_append {text : Text} (h : '}' ∉ text) (pending : Option Text)
    (fragment : Text) :
    atoms (scanSpans pending (fragment ++ text)) =
      atoms (scanSpans pending fragment) ++ literalAtoms text := by
  fun_induction scanSpans pending fragment with
  | case1 => exact atoms_spans_of_no_closing h
  | case2 read =>
      rw [List.nil_append, scanSpans_unclosed h]
      simp [atoms]
  | case3 rest ih => simpa [scanSpans] using ih
  | case4 c rest hc ih => simp [scanSpans, hc, ih]
  | case5 read c rest hc ih => simpa [scanSpans, hc] using ih
  | case6 read c rest hc hread ih => simp_all [scanSpans]
  | case7 read c rest hc hread ih => simp_all [scanSpans]

/-- What is added to the last of some joined rows comes behind all of them. -/
theorem atoms_joinSegments_of_last {separator : Text} {last row : List Segment}
    {added : List Atom} (h : atoms last = atoms row ++ added) (rows : List (List Segment)) :
    atoms (joinSegments separator (rows ++ [last])) =
      atoms (joinSegments separator (rows ++ [row])) ++ added := by
  induction rows with
  | nil => exact h
  | cons first rows ih =>
      rw [List.cons_append, List.cons_append,
        atoms_joinSegments_cons separator first (by simp),
        atoms_joinSegments_cons separator first (by simp), ih]
      simp only [List.append_assoc]

theorem pieceAtoms_append_plain {text : Text} (htext : IsPlain text) {piece : Text}
    (hpiece : ¬['}', '}', '}', '}'] <:+ piece) :
    pieceAtoms (piece ++ text) = pieceAtoms piece ++ literalAtoms text := by
  obtain ⟨before, last, hsplit, hextended⟩ :=
    extendsLast_splitClosing htext.no_closing hpiece
  rw [pieceAtoms, pieceAtoms, hsplit, hextended, List.map_append, List.map_append]
  exact atoms_joinSegments_of_last (atoms_scanSpans_append htext.no_closing none last) (before.map spans)

theorem join_splitOpening (t : Text) : Text.join ['{', '{'] (splitOpening t) = t := by
  fun_induction splitOpening t with
  | case1 => rfl
  | case2 => rfl
  | case3 c d rest h ih =>
      obtain ⟨rfl, rfl⟩ := h
      rw [Text.join_nil_cons _ (splitOpening_ne_nil rest), ih]
      rfl
  | case4 c d rest h ih => rw [Text.join_modifyHead_cons _ c (splitOpening_ne_nil _), ih]

theorem suffix_join_concat (separator last : Text) (pieces : List Text) :
    last <:+ Text.join separator (pieces ++ [last]) := by
  induction pieces with
  | nil => exact List.suffix_rfl
  | cons piece pieces ih =>
      obtain ⟨next, rest, heq⟩ := List.exists_cons_of_ne_nil (l := pieces ++ [last]) (by simp)
      rw [List.cons_append, heq, Text.join_cons_cons, ← heq]
      exact ih.trans (List.suffix_append _ _)

theorem parse_append_plain {text : Text} (htext : IsPlain text) {template : Text}
    (htemplate : ¬['}', '}', '}', '}'] <:+ template) :
    parse (template ++ text) = parse template ++ literalAtoms text := by
  obtain ⟨before, last, hsplit, hextended⟩ :=
    extendsLast_splitOpening htext.no_opening template
  have hlast : ¬['}', '}', '}', '}'] <:+ last := by
    intro h
    apply htemplate
    rw [← join_splitOpening template, hsplit]
    exact h.trans (suffix_join_concat ['{', '{'] last before)
  rw [parse, parse, segments, segments, hsplit, hextended, List.map_append, List.map_append]
  exact atoms_joinSegments_of_last (pieceAtoms_append_plain htext hlast) _

/-! ## Filling -/

theorem renderAtoms_append_literalAtoms [Platform] (args : List Value) (row : List Atom)
    (text : Text) :
    renderAtoms args (row ++ literalAtoms text) = (renderAtoms args row).map (· ++ text) := by
  induction row with
  | nil =>
      rw [List.nil_append, ← List.append_nil (literalAtoms text), renderAtoms_literalAtoms_append]
      simp [renderAtoms, Except.map]
  | cons atom rest ih =>
      cases atom with
      | char c =>
          rw [List.cons_append, renderAtoms, renderAtoms, ih]
          cases renderAtoms args rest <;> rfl
      | span pattern =>
          rw [List.cons_append, renderAtoms, renderAtoms, ih]
          cases expand pattern args with
          | error e => rfl
          | ok value => cases renderAtoms args rest <;> simp [Except.map]

/-- Text without braces before any template comes out before what the template gives, and text
without braces behind a template that does not end in four or more closing braces comes out behind
it. If the template cannot be filled, the error is the same. -/
theorem format_surrounded [Platform] {before after : Text} (hbefore : IsPlain before)
    (hafter : IsPlain after) (template : Text) (args : List Value) :
    format (before ++ template) args = (format template args).map (before ++ ·) ∧
      (¬['}', '}', '}', '}'] <:+ template →
        format (before ++ template ++ after) args =
          (format template args).map (before ++ · ++ after)) := by
  have hprepended : format (before ++ template) args =
      (format template args).map (before ++ ·) := by
    rw [format_eq_renderAtoms, parse_plain_append hbefore, renderAtoms_literalAtoms_append,
      format_eq_renderAtoms]
  refine ⟨hprepended, fun htemplate => ?_⟩
  have happended : format (template ++ after) args = (format template args).map (· ++ after) := by
    rw [format_eq_renderAtoms, parse_append_plain hafter htemplate,
      renderAtoms_append_literalAtoms, format_eq_renderAtoms]
  rw [List.append_assoc, format_eq_renderAtoms, parse_plain_append hbefore,
    renderAtoms_literalAtoms_append, ← format_eq_renderAtoms, happended]
  cases format template args <;> simp [Except.map]

/-- A span between braces that are odd in number on both sides, with an opening brace that is never
closed behind it. -/
theorem format_surrounded_odd_braces :
    IsPlain ['a'] ∧ IsPlain ['b'] ∧
      ¬['}', '}', '}', '}'] <:+ "\x7b\x7b\x7b0\x7d\x7d\x7d \x7b1 \x7d\x7d\x7d".toList ∧
      format "a\x7b\x7b\x7b0\x7d\x7d\x7d \x7b1 \x7d\x7d\x7db".toList [.integer 7, .text ['c']] =
        .ok "a\x7b7\x7d c\x7db".toList := by
  have ha : IsPlain ['a'] := ⟨by decide, by decide⟩
  have hb : IsPlain ['b'] := ⟨by decide, by decide⟩
  have ht : ¬['}', '}', '}', '}'] <:+ "\x7b\x7b\x7b0\x7d\x7d\x7d \x7b1 \x7d\x7d\x7d".toList := by
    decide
  have hrow : segments "\x7b\x7b\x7b0\x7d\x7d\x7d \x7b1 \x7d\x7d\x7d".toList =
      [.literal ['{'], .span ['0'], .literal ['}'], .literal [' '], .span ['1', ' '],
        .literal ['}']] := by
    decide
  have houter : "a\x7b\x7b\x7b0\x7d\x7d\x7d \x7b1 \x7d\x7d\x7db".toList =
      ['a'] ++ "\x7b\x7b\x7b0\x7d\x7d\x7d \x7b1 \x7d\x7d\x7d".toList ++ ['b'] := rfl
  refine ⟨ha, hb, ht, ?_⟩
  rw [houter, (format_surrounded ha hb _ [.integer 7, .text ['c']]).2 ht, format_eq_render, hrow]
  rfl

end Phrasebook.Template
