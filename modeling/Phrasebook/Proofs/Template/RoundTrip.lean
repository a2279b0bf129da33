import Mathlib.Tactic.Tauto
import Phrasebook.Proofs.Template.Filling

/-!
# Writing templates and filling them

A row of literals and spans is written down by doubling every brace of the literals and putting
single ones around the patterns. Filling what is written gives the literals and the values of the
spans back in order, with one exception: a closing brace that ends a span or a literal merges
with the doubled ones behind it, and of a run of them that ends its piece only the last two
count. So a run of closing braces before an opening brace of the same literal, or at the end of
the template, comes back with all but one of its braces doubled.

The literals are handled one character at a time. The closing braces just read are held back, as
a number, until it is known what follows them.
-/

namespace Phrasebook.Template

/-- A text with every brace doubled. -/
def doubled (text : Text) : Text :=
  text.flatMap fun c => if c = '{' ∨ c = '}' then [c, c] else [c]

/-- The written form of a segment. -/
def Segment.written : Segment → Text
  | .literal text => doubled text
  | .span pattern => '{' :: pattern ++ ['}']

/-- The template that a row of segments is written as. -/
def written (row : List Segment) : Text :=
  row.flatMap Segment.written

/-- A row that can be written: its patterns are such that no scanner takes them for anything
else, and no literal stands directly behind another one. -/
structure IsWritable (row : List Segment) : Prop where
  patterns : ∀ pattern, .span pattern ∈ row → IsPattern pattern
  separated : ∀ a b, ¬[.literal a, .literal b] <:+: row

/-- Whether the closing braces at the end of a run merge with the text behind it, where `atEnd`
says whether the template ends behind that text. -/
def mergesBefore (atEnd : Bool) : Text → Bool
  | [] => atEnd
  | c :: _ => c == '{'

/-- What comes back of a literal, where `atEnd` says whether the template ends behind it: a run of
closing braces that an opening brace or the end of the template follows has all but one of its
braces doubled, and everything else stays as it is. -/
def grownText (atEnd : Bool) : Text → Text
  | [] => []
  | c :: rest =>
    if c = '}' then
      let run := (rest.takeWhile (· == '}')).length + 1
      let after := rest.dropWhile (· == '}')
      List.replicate (if mergesBefore atEnd after then 2 * run - 1 else run) '}' ++
        grownText atEnd after
    else c :: grownText atEnd rest
termination_by text => text.length
decreasing_by
  · exact Nat.lt_succ_of_le (List.dropWhile_suffix _).length_le
  · exact Nat.lt_succ_self _

/-- A row with its literals as they come back. -/
def grown : List Segment → List Segment
  | [] => []
  | .literal text :: rest => .literal (grownText rest.isEmpty text) :: grown rest
  | .span pattern :: rest => .span pattern :: grown rest

/-! ## Literals, one character at a time -/

/-- What comes back of `held` closing braces and the text behind them. -/
def grownFrom (atEnd : Bool) (held : Nat) : Text → Text
  | [] => List.replicate (if atEnd then 2 * held - 1 else held) '}'
  | c :: rest =>
    if c = '}' then grownFrom atEnd (held + 1) rest
    else
      List.replicate (if c = '{' then 2 * held - 1 else held) '}' ++
        c :: grownFrom atEnd 0 rest

/-- A run of closing braces is taken in at once. -/
theorem grownFrom_run (atEnd : Bool) (held : Nat) (text : Text) :
    grownFrom atEnd held text =
      grownFrom atEnd (held + (text.takeWhile (· == '}')).length) (text.dropWhile (· == '}')) := by
  induction text generalizing held with
  | nil => rfl
  | cons c rest ih =>
      by_cases hc : c = '}'
      · subst hc
        rw [grownFrom, if_pos rfl, ih (held + 1), Nat.add_assoc, Nat.add_comm 1]
        rfl
      · have hc' : (c == '}') = false := beq_eq_false_iff_ne.2 hc
        rw [List.takeWhile_cons_of_neg (by simp [hc]), List.dropWhile_cons_of_neg (by simp [hc])]
        rfl

/-- Behind a run of closing braces nothing is held back any more. -/
theorem grownFrom_of_head_ne (atEnd : Bool) (held : Nat) {after : Text}
    (h : after.head? ≠ some '}') :
    grownFrom atEnd held after =
      List.replicate (if mergesBefore atEnd after then 2 * held - 1 else held) '}' ++
        grownFrom atEnd 0 after := by
  cases after with
  | nil => cases atEnd <;> simp [grownFrom, mergesBefore]
  | cons c rest =>
      have hc : c ≠ '}' := fun hc => h (congrArg some hc)
      by_cases hopen : c = '{' <;> simp [grownFrom, mergesBefore, hc, hopen]

theorem grownText_eq_grownFrom (atEnd : Bool) (text : Text) :
    grownText atEnd text = grownFrom atEnd 0 text := by
  fun_induction grownText atEnd text with
  | case1 => simp [grownFrom]
  | case2 rest run after ih =>
      have hafter : after.head? ≠ some '}' := by
        intro h
        have hnot := List.head?_dropWhile_not (· == '}') rest
        rw [show rest.dropWhile (· == '}') = after from rfl, h] at hnot
        cases hnot
      have hrun : grownFrom atEnd 0 ('}' :: rest) = grownFrom atEnd run after := by
        rw [grownFrom, if_pos rfl, grownFrom_run, Nat.zero_add, Nat.add_comm 1]
      rw [ih, hrun, ← grownFrom_of_head_ne atEnd run hafter]
  | case3 c rest hc ih =>
      rw [ih, grownFrom, if_neg hc]
      split <;> rfl

/-! ## Rows that can be written -/

namespace IsWritable

variable {segment : Segment} {rest : List Segment}

theorem tail (h : IsWritable (segment :: rest)) : IsWritable rest where
  patterns pattern hp := h.patterns pattern (List.mem_cons_of_mem _ hp)
  separated a b hab := h.separated a b (hab.trans (List.suffix_cons segment rest).isInfix)

theorem head_span {pattern : Text} (h : IsWritable (.span pattern :: rest)) : IsPattern pattern :=
  h.patterns pattern List.mem_cons_self

/-- Behind a literal the row ends or goes on with a span. -/
theorem after_literal {text : Text} (h : IsWritable (.literal text :: rest)) :
    rest = [] ∨ ∃ pattern row, rest = .span pattern :: row := by
  cases rest with
  | nil => exact .inl rfl
  | cons next row =>
      cases next with
      | span pattern => exact .inr ⟨pattern, row, rfl⟩
      | literal other =>
          exact absurd (List.prefix_append [.literal text, .literal other] row).isInfix
            (h.separated text other)

end IsWritable

/-! ## Reading back what is written -/

theorem written_cons (segment : Segment) (row : List Segment) :
    written (segment :: row) = segment.written ++ written row :=
  List.flatMap_cons

theorem doubled_cons (c : Char) (text : Text) :
    doubled (c :: text) = (if c = '{' ∨ c = '}' then [c, c] else [c]) ++ doubled text :=
  List.flatMap_cons

/-- A span keeps its opening brace to itself. -/
theorem endsPiece_written_span {pattern : Text} (h : IsPattern pattern) (row : List Segment) :
    endsPiece (written (.span pattern :: row)) = false := by
  obtain ⟨c, p, rfl⟩ := List.exists_cons_of_ne_nil h.ne_nil
  have hc : c ≠ '{' := fun hc => h.not_opening (congrArg some hc)
  simp [written_cons, Segment.written, endsPiece, hc]

/-- The part of the template behind a literal begins with no closing brace, and it ends the piece
of the literal only if it is empty. -/
theorem IsWritable.written_after_literal {text : Text} {rest : List Segment}
    (h : IsWritable (.literal text :: rest)) :
    (written rest).head? ≠ some '}' ∧ endsPiece (written rest) = rest.isEmpty := by
  rcases h.after_literal with rfl | ⟨pattern, row, rfl⟩
  · exact ⟨by simp [written], rfl⟩
  · refine ⟨?_, endsPiece_written_span h.tail.head_span row⟩
    simp [written_cons, Segment.written]

/-- The closing braces at the beginning of a doubled literal are even in number. -/
theorem doubled_begins_evenly (text : Text) {after : Text} (h : after.head? ≠ some '}') :
    ∃ m rest, doubled text ++ after = List.replicate (2 * m) '}' ++ rest ∧
      rest.head? ≠ some '}' := by
  induction text with
  | nil => exact ⟨0, after, rfl, h⟩
  | cons c text ih =>
      by_cases hc : c = '}'
      · obtain ⟨m, rest, heq, hrest⟩ := ih
        refine ⟨m + 1, rest, ?_, hrest⟩
        rw [doubled_cons, if_pos (.inr hc), hc, List.append_assoc, heq]
        rfl
      · refine ⟨0, doubled (c :: text) ++ after, rfl, ?_⟩
        rw [doubled_cons]
        split <;> simp [hc]

theorem IsWritable.written_begins_evenly {row : List Segment} (h : IsWritable row) :
    ∃ m rest, written row = List.replicate (2 * m) '}' ++ rest ∧ rest.head? ≠ some '}' := by
  cases row with
  | nil => exact ⟨0, [], rfl, by simp⟩
  | cons segment rest =>
      cases segment with
      | span pattern =>
          exact ⟨0, written (.span pattern :: rest), rfl, by simp [written_cons, Segment.written]⟩
      | literal text =>
          rw [written_cons]
          exact doubled_begins_evenly text h.written_after_literal.1

/-- The atoms of a doubled literal with closing braces held back before it. -/
theorem parse_doubled_append (text : Text) (held : Nat) {after : Text}
    (h : after.head? ≠ some '}') :
    parse (List.replicate (2 * held) '}' ++ (doubled text ++ after)) =
      literalAtoms (grownFrom (endsPiece after) held text) ++ parse after := by
  induction text generalizing held with
  | nil =>
      change parse (_ ++ after) = _
      rw [parse_run held h, grownFrom, literalAtoms_replicate]
  | cons c text ih =>
      have htext : parse (doubled text ++ after) =
          literalAtoms (grownFrom (endsPiece after) 0 text) ++ parse after := ih 0
      by_cases hclose : c = '}'
      · subst hclose
        have hheld : List.replicate (2 * held) '}' ++ (doubled ('}' :: text) ++ after) =
            List.replicate (2 * (held + 1)) '}' ++ (doubled text ++ after) := by
          rw [Nat.mul_succ, ← List.replicate_append_replicate, List.append_assoc]
          rfl
        rw [hheld, ih (held + 1), grownFrom, if_pos rfl]
      · rw [grownFrom, if_neg hclose, literalAtoms_append, literalAtoms_replicate,
          literalAtoms_cons, List.append_assoc, List.cons_append, ← htext]
        by_cases hopen : c = '{'
        · subst hopen
          have hshape : doubled ('{' :: text) ++ after = '{' :: '{' :: (doubled text ++ after) :=
            rfl
          rw [hshape, parse_run held (by simp), parse_doubled, if_pos rfl]
          rfl
        · have hshape : doubled (c :: text) ++ after = c :: (doubled text ++ after) := by
            rw [doubled_cons, if_neg (not_or.2 ⟨hopen, hclose⟩)]
            rfl
          have hends : endsPiece (c :: (doubled text ++ after)) = false := by
            cases doubled text ++ after <;> simp [endsPiece, hopen]
          rw [hshape, parse_run held (by simpa using hclose), parse_cons hopen hclose, hends,
            if_neg hopen, if_neg Bool.false_ne_true]

/-- The atoms of a written row are those of the row with its literals as they come back. -/
theorem IsWritable.parse_written {row : List Segment} (h : IsWritable row) :
    parse (written row) = atoms (grown row) := by
  induction row with
  | nil => rfl
  | cons segment rest ih =>
      rw [written_cons]
      cases segment with
      | literal text =>
          obtain ⟨hhead, hends⟩ := h.written_after_literal
          have hparse := parse_doubled_append text 0 hhead
          rw [hends, ih h.tail] at hparse
          rw [grown, atoms_literal_cons, grownText_eq_grownFrom]
          exact hparse
      | span pattern =>
          obtain ⟨m, after, heq, hafter⟩ := h.tail.written_begins_evenly
          rw [Segment.written, heq, h.head_span.parse_span m hafter, ← heq, ih h.tail]
          rfl

/-- Filling a written row is filling the row with its literals as they come back, whether or not
its spans can be filled. -/
theorem IsWritable.format_written [Platform] {row : List Segment} (h : IsWritable row)
    (args : List Value) :
    format (written row) args = render args (grown row) := by
  rw [format_eq_renderAtoms, h.parse_written, render_eq_renderAtoms]

/-! ## Where the way back is exact -/

/-- A run of two or more closing braces stands before an opening brace of the same literal, or at
the end of the last literal. -/
def HasMergingRun (row : List Segment) : Prop :=
  (∃ text, .literal text ∈ row ∧ ['}', '}', '{'] <:+: text) ∨
    ∃ text, row.getLast? = some (.literal text) ∧ ['}', '}'] <:+ text

/-- The text of a segment, with the values of spans given. -/
def Segment.textWith (value : Text → Text) : Segment → Text
  | .literal text => text
  | .span pattern => value pattern

theorem length_le_grownFrom (atEnd : Bool) (held : Nat) (text : Text) :
    held + text.length ≤ (grownFrom atEnd held text).length := by
  induction text generalizing held with
  | nil =>
      rw [grownFrom, List.length_replicate, List.length_nil]
      split <;> omega
  | cons c rest ih =>
      rw [grownFrom]
      split
      · have := ih (held + 1)
        rw [List.length_cons]
        omega
      · have := ih 0
        simp only [List.length_append, List.length_replicate, List.length_cons]
        split <;> omega

theorem infix_run_cons_iff (held : Nat) {c : Char} (hc : c ≠ '}') (rest : Text) :
    ['}', '}', '{'] <:+: List.replicate held '}' ++ c :: rest ↔
      (2 ≤ held ∧ c = '{') ∨ ['}', '}', '{'] <:+: rest := by
  have hfirst : ∀ tail, ¬('}' :: tail) <+: c :: rest := fun tail h =>
    hc (List.cons_prefix_cons.1 h).1.symm
  induction held with
  | zero =>
      rw [List.replicate_zero, List.nil_append, List.infix_cons_iff]
      simp [hfirst]
  | succ held ih =>
      rw [List.replicate_succ, List.cons_append, List.infix_cons_iff, List.cons_prefix_cons]
      simp only [ih]
      match held with
      | 0 => simp [hfirst]
      | 1 =>
          have : ['{'] <+: c :: rest ↔ c = '{' := by simp [List.cons_prefix_cons, eq_comm]
          simp [List.cons_prefix_cons, this]
      | held + 2 =>
          simp [List.replicate_succ, List.cons_prefix_cons]

theorem suffix_run_cons_iff (held : Nat) {c : Char} (hc : c ≠ '}') (rest : Text) :
    ['}', '}'] <:+ List.replicate held '}' ++ c :: rest ↔ ['}', '}'] <:+ rest := by
  induction held with
  | zero =>
      rw [List.replicate_zero, List.nil_append, List.suffix_cons_iff]
      simp [hc.symm]
  | succ held ih =>
      rw [List.replicate_succ, List.cons_append, List.suffix_cons_iff, ih]
      cases held <;> simp [List.replicate_succ, hc.symm]

theorem infix_run_iff (held : Nat) : ¬['}', '}', '{'] <:+: List.replicate held '}' := by
  intro h
  have := List.eq_of_mem_replicate (h.subset (by simp : '{' ∈ ['}', '}', '{']))
  exact absurd this (by decide)

theorem suffix_run_iff (held : Nat) : ['}', '}'] <:+ List.replicate held '}' ↔ 2 ≤ held := by
  constructor
  · intro h
    simpa using h.length_le
  · intro h
    exact ⟨List.replicate (held - 2) '}', by
      rw [show ['}', '}'] = List.replicate 2 '}' from rfl, List.replicate_append_replicate,
        Nat.sub_add_cancel h]⟩

/-- Held braces and the text behind them come back as they are exactly where no run of two or more
of them merges. -/
theorem grownFrom_eq_iff (atEnd : Bool) (held : Nat) (text : Text) :
    grownFrom atEnd held text = List.replicate held '}' ++ text ↔
      ¬['}', '}', '{'] <:+: List.replicate held '}' ++ text ∧
        (atEnd = true → ¬['}', '}'] <:+ List.replicate held '}' ++ text) := by
  induction text generalizing held with
  | nil =>
      rw [grownFrom, List.append_nil, List.replicate_inj, suffix_run_iff]
      cases atEnd
      · simp [infix_run_iff]
      · simp only [infix_run_iff, not_false_eq_true, true_and, if_true, or_true, and_true,
          forall_const]
        omega
  | cons c rest ih =>
      by_cases hc : c = '}'
      · subst hc
        have hheld : List.replicate held '}' ++ '}' :: rest =
            List.replicate (held + 1) '}' ++ rest := by
          rw [List.replicate_succ', List.append_assoc]
          rfl
        rw [grownFrom, if_pos rfl, hheld, ih (held + 1)]
      · have hrest := ih 0
        rw [List.replicate_zero, List.nil_append] at hrest
        rw [infix_run_cons_iff held hc, suffix_run_cons_iff held hc, grownFrom, if_neg hc, not_or,
          and_assoc, ← hrest]
        constructor
        · intro h
          have hlength := congrArg List.length h
          have hle := length_le_grownFrom atEnd 0 rest
          simp only [List.length_append, List.length_replicate, List.length_cons] at hlength
          by_cases hopen : c = '{'
          · rw [if_pos hopen] at h hlength
            have hheld : 2 * held - 1 = held := by omega
            rw [hheld] at h
            exact ⟨fun hrun => by omega, (List.cons.inj (List.append_cancel_left h)).2⟩
          · rw [if_neg hopen] at h
            exact ⟨fun hrun => hopen hrun.2, (List.cons.inj (List.append_cancel_left h)).2⟩
        · rintro ⟨hrun, htail⟩
          rw [htail]
          by_cases hopen : c = '{'
          · have hheld : ¬2 ≤ held := fun htwo => hrun ⟨htwo, hopen⟩
            rw [if_pos hopen, show 2 * held - 1 = held by omega]
          · rw [if_neg hopen]

theorem grownText_eq_iff (atEnd : Bool) (text : Text) :
    grownText atEnd text = text ↔
      ¬['}', '}', '{'] <:+: text ∧ (atEnd = true → ¬['}', '}'] <:+ text) := by
  rw [grownText_eq_grownFrom]
  exact grownFrom_eq_iff atEnd 0 text

theorem length_le_grownText (atEnd : Bool) (text : Text) :
    text.length ≤ (grownText atEnd text).length := by
  have := length_le_grownFrom atEnd 0 text
  rw [grownText_eq_grownFrom]
  omega

theorem length_le_flatMap_grown (value : Text → Text) (row : List Segment) :
    (row.flatMap (Segment.textWith value)).length ≤
      ((grown row).flatMap (Segment.textWith value)).length := by
  induction row with
  | nil => exact Nat.le_refl _
  | cons segment rest ih =>
      cases segment with
      | literal text =>
          have := length_le_grownText rest.isEmpty text
          simp only [grown, List.flatMap_cons, List.length_append, Segment.textWith]
          omega
      | span pattern =>
          simpa only [grown, List.flatMap_cons, List.length_append, Segment.textWith,
            Nat.add_le_add_iff_left] using ih

theorem hasMergingRun_literal_cons (text : Text) (rest : List Segment) :
    HasMergingRun (.literal text :: rest) ↔
      ¬grownText rest.isEmpty text = text ∨ HasMergingRun rest := by
  have hlast : (∃ t, (Segment.literal text :: rest).getLast? = some (.literal t) ∧
        ['}', '}'] <:+ t) ↔
      (rest.isEmpty = true ∧ ['}', '}'] <:+ text) ∨
        ∃ t, rest.getLast? = some (.literal t) ∧ ['}', '}'] <:+ t := by
    cases rest with
    | nil => simp
    | cons next row => simp [List.getLast?_cons_cons]
  have hgrown : ¬grownText rest.isEmpty text = text ↔
      ['}', '}', '{'] <:+: text ∨ (rest.isEmpty = true ∧ ['}', '}'] <:+ text) := by
    rw [grownText_eq_iff]
    tauto
  rw [hgrown, HasMergingRun, hlast, HasMergingRun]
  simp only [List.mem_cons, Segment.literal.injEq, or_and_right, exists_or, exists_eq_left]
  exact or_or_or_comm

theorem hasMergingRun_span_cons (pattern : Text) (rest : List Segment) :
    HasMergingRun (.span pattern :: rest) ↔ HasMergingRun rest := by
  rw [HasMergingRun, HasMergingRun]
  cases rest with
  | nil => simp
  | cons next row => simp [List.getLast?_cons_cons]

/-- The row comes back as it is exactly where no run of closing braces merges. -/
theorem flatMap_grown_eq_iff (value : Text → Text) (row : List Segment) :
    (grown row).flatMap (Segment.textWith value) = row.flatMap (Segment.textWith value) ↔
      ¬HasMergingRun row := by
  induction row with
  | nil => simp [grown, HasMergingRun]
  | cons segment rest ih =>
      cases segment with
      | span pattern =>
          rw [hasMergingRun_span_cons, ← ih, grown, List.flatMap_cons, List.flatMap_cons]
          exact List.append_right_inj (value pattern)
      | literal text =>
          rw [hasMergingRun_literal_cons, not_or, Decidable.not_not, ← ih, grown,
            List.flatMap_cons, List.flatMap_cons]
          constructor
          · intro h
            have hlength := congrArg List.length h
            have htext := length_le_grownText rest.isEmpty text
            have hrest := length_le_flatMap_grown value rest
            simp only [List.length_append, Segment.textWith] at hlength
            exact List.append_inj h (by omega)
          · rintro ⟨htext, hrest⟩
            rw [hrest, Segment.textWith, htext]
            rfl

theorem render_of_values [Platform] {args : List Value} {value : Text → Text} {row : List Segment}
    (h : ∀ pattern, .span pattern ∈ row → expand pattern args = .ok (value pattern)) :
    render args row = .ok (row.flatMap (Segment.textWith value)) := by
  induction row with
  | nil => rfl
  | cons segment rest ih =>
      have hrest := ih fun pattern hp => h pattern (List.mem_cons_of_mem _ hp)
      have hfirst : segment.render args = .ok (segment.textWith value) := by
        cases segment with
        | literal text => rfl
        | span pattern => exact h pattern List.mem_cons_self
      rw [render, hfirst, hrest]
      rfl

theorem span_mem_grown_iff {pattern : Text} {row : List Segment} :
    .span pattern ∈ grown row ↔ .span pattern ∈ row := by
  induction row with
  | nil => rfl
  | cons segment rest ih => cases segment <;> simp [grown, ih]

/-- Filling a written row whose spans all have values gives the values and the literals in order,
the literals as they come back; and it gives the literals as they are exactly where no run of
closing braces merges. -/
theorem format_written_eq [Platform] {row : List Segment} (hrow : IsWritable row)
    {args : List Value} {value : Text → Text}
    (hvalue : ∀ pattern, .span pattern ∈ row → expand pattern args = .ok (value pattern)) :
    format (written row) args = .ok ((grown row).flatMap (Segment.textWith value)) ∧
      (format (written row) args = .ok (row.flatMap (Segment.textWith value)) ↔
        ¬HasMergingRun row) := by
  have hformat : format (written row) args =
      .ok ((grown row).flatMap (Segment.textWith value)) := by
    rw [hrow.format_written]
    exact render_of_values fun pattern hp => hvalue pattern (span_mem_grown_iff.1 hp)
  refine ⟨hformat, ?_⟩
  rw [hformat, Except.ok.injEq]
  exact flatMap_grown_eq_iff value row

/-- Two closing braces before an opening one come back as three, and so do two at the end; the one
behind the span stays single. -/
theorem format_written_eq_braces :
    let row : List Segment :=
      [.literal ['a', '}', '}', '{'], .span ['0'], .literal ['}', 'b', '}', '}']]
    let value : Text → Text := fun _ => ['7']
    IsWritable row ∧
      (∀ pattern, .span pattern ∈ row → expand pattern [.integer 7] = .ok (value pattern)) ∧
      format (written row) [.integer 7] =
        .ok ['a', '}', '}', '}', '{', '7', '}', 'b', '}', '}', '}'] := by
  intro row value
  have hrow : IsWritable row := by
    refine ⟨fun pattern hp => ?_, fun a b hab => ?_⟩
    · obtain rfl : pattern = ['0'] := by simpa [row] using hp
      exact ⟨by decide, by decide, by decide, by decide⟩
    · simp [row, List.infix_cons_iff, List.cons_prefix_cons] at hab
  have hvalue : ∀ pattern, .span pattern ∈ row →
      expand pattern [.integer 7] = .ok (value pattern) := by
    intro pattern hp
    obtain rfl : pattern = ['0'] := by simpa [row] using hp
    rfl
  refine ⟨hrow, hvalue, ?_⟩
  rw [(format_written_eq hrow hvalue).1]
  simp [row, value, grown, grownText, mergesBefore, Segment.textWith]

end Phrasebook.Template
