import Phrasebook.Proofs.Template.Atoms

/-!
# How braces are scanned

The laws of the three scanners, each for text of one shape at the beginning: a doubled opening
brace, a character that is no brace, a run of closing braces, a span. What a run of closing
braces comes to depends on its parity and on whether its piece ends behind it; `closes_run` says
so once, and the laws of whole templates follow from it.
-/

namespace Phrasebook.Template

/-- The atoms of a template. -/
def parse (template : Text) : List Atom :=
  atoms (segments template)

/-- The atoms of a piece between doubled opening braces. -/
def pieceAtoms (piece : Text) : List Atom :=
  atoms (joinSegments ['}'] ((splitClosing piece).map spans))

/-! ## Doubled opening braces -/

theorem splitOpening_doubled (rest : Text) :
    splitOpening ('{' :: '{' :: rest) = [] :: splitOpening rest := by
  simp [splitOpening]

theorem splitOpening_cons {c : Char} {rest : Text} (h : c = '{' → rest.head? ≠ some '{') :
    splitOpening (c :: rest) = (splitOpening rest).modifyHead (c :: ·) := by
  cases rest with
  | nil => rfl
  | cons d rest =>
      have hpair : ¬(c = '{' ∧ d = '{') := by
        rintro ⟨hc, rfl⟩
        exact h hc rfl
      rw [splitOpening, if_neg hpair]

theorem splitOpening_ne_nil (t : Text) : splitOpening t ≠ [] := by
  fun_induction splitOpening t with
  | case1 => simp
  | case2 => simp
  | case3 => simp
  | case4 c d rest h ih => simpa using ih

/-- Text without a doubled opening brace, in which the last character is none either, stays in
one piece with what follows. -/
theorem splitOpening_append {x : Text} (hx : ¬['{', '{'] <:+: x) (hlast : x.getLast? ≠ some '{')
    (rest : Text) : splitOpening (x ++ rest) = (splitOpening rest).modifyHead (x ++ ·) := by
  induction x with
  | nil =>
      obtain ⟨first, pieces, h⟩ := List.exists_cons_of_ne_nil (splitOpening_ne_nil rest)
      rw [List.nil_append, h]
      rfl
  | cons c x ih =>
      have hx' : ¬['{', '{'] <:+: x := fun h => hx (h.trans (List.suffix_cons c x).isInfix)
      have hhead : c = '{' → (x ++ rest).head? ≠ some '{' := by
        rintro rfl hd
        cases x with
        | nil => exact hlast rfl
        | cons d x =>
            cases hd
            exact hx (List.prefix_append ['{', '{'] x).isInfix
      have hlast' : x.getLast? ≠ some '{' := by
        cases x with
        | nil => simp
        | cons d x => simpa [List.getLast?_cons_cons] using hlast
      rw [List.cons_append, splitOpening_cons hhead, ih hx' hlast', List.modifyHead_modifyHead]
      rfl

/-- Whether a piece ends before this text: at the end, or at a doubled opening brace. -/
def endsPiece : Text → Bool
  | [] => true
  | [_] => false
  | c :: d :: _ => c == '{' && d == '{'

/-- The first piece of a text is empty, or it begins like the text. -/
theorem first_piece (t : Text) :
    (endsPiece t = true ∧ ∃ pieces, splitOpening t = [] :: pieces) ∨
      (endsPiece t = false ∧ ∃ c rest first pieces,
        t = c :: rest ∧ splitOpening t = (c :: first) :: pieces) := by
  match t with
  | [] => exact .inl ⟨rfl, [], rfl⟩
  | [c] => exact .inr ⟨rfl, c, [], [], [], rfl, rfl⟩
  | c :: d :: rest =>
      by_cases h : c = '{' ∧ d = '{'
      · obtain ⟨rfl, rfl⟩ := h
        exact .inl ⟨rfl, splitOpening rest, splitOpening_doubled rest⟩
      · obtain ⟨first, pieces, hsplit⟩ :=
          List.exists_cons_of_ne_nil (splitOpening_ne_nil (d :: rest))
        have hends : endsPiece (c :: d :: rest) = false := by
          simpa [endsPiece] using h
        refine .inr ⟨hends, c, d :: rest, first, pieces, rfl, ?_⟩
        rw [splitOpening, if_neg h, hsplit]
        rfl

/-! ## Rows of pieces -/

/-- Two rows of pieces put together. The last piece of the first row and the first piece of the
second one become one piece. -/
def glue : List Text → List Text → List Text
  | [], pieces => pieces
  | [last], pieces => pieces.modifyHead (last ++ ·)
  | piece :: next :: rest, pieces => piece :: glue (next :: rest) pieces

theorem glue_singleton (last : Text) (pieces : List Text) :
    glue [last] pieces = pieces.modifyHead (last ++ ·) := rfl

theorem glue_cons (piece : Text) {row : List Text} (h : row ≠ []) (pieces : List Text) :
    glue (piece :: row) pieces = piece :: glue row pieces := by
  obtain ⟨next, rest, rfl⟩ := List.exists_cons_of_ne_nil h
  rfl

theorem glue_modifyHead (c : Char) {row : List Text} (h : row ≠ []) (pieces : List Text) :
    glue (row.modifyHead (c :: ·)) pieces = (glue row pieces).modifyHead (c :: ·) := by
  obtain ⟨first, rest, rfl⟩ := List.exists_cons_of_ne_nil h
  cases rest with
  | nil =>
      rw [List.modifyHead_cons, glue_singleton, glue_singleton, List.modifyHead_modifyHead]
      rfl
  | cons next rest => rfl

theorem glue_nil_piece (pieces : List Text) : glue [[]] pieces = pieces := by
  cases pieces <;> rfl

/-! ## Runs of closing braces -/

/-- Closing braces at the beginning of a text, and what follows them. -/
theorem exists_run (text : Text) :
    ∃ n after, text = List.replicate n '}' ++ after ∧ after.head? ≠ some '}' := by
  induction text with
  | nil => exact ⟨0, [], rfl, by simp⟩
  | cons c rest ih =>
      by_cases hc : c = '}'
      · obtain ⟨n, after, rfl, hafter⟩ := ih
        subst hc
        exact ⟨n + 1, after, rfl, hafter⟩
      · exact ⟨0, c :: rest, rfl, by simpa using hc⟩

theorem closesAfterPairs_run (n : Nat) {after : Text} (h : after.head? ≠ some '}') :
    closesAfterPairs (List.replicate n '}' ++ after) = (n % 2 == 0 && !after.isEmpty) := by
  have hafter : ∀ c rest, after = c :: rest → c ≠ '}' := by
    rintro c rest rfl rfl
    exact h rfl
  -- Pairs of braces are taken off until none or a single one is left.
  match n with
  | 0 =>
      match after with
      | [] => rfl
      | [c] => simp [closesAfterPairs, hafter c [] rfl]
      | c :: d :: rest => simp [closesAfterPairs, hafter c (d :: rest) rfl]
  | 1 =>
      match after with
      | [] => rfl
      | c :: rest => simp [closesAfterPairs, hafter c rest rfl]
  | n + 2 =>
      rw [Nat.add_mod_right, ← closesAfterPairs_run n h]
      simp [List.replicate_succ, closesAfterPairs]

/-- Two closing braces count before a run of closing braces if it is even, or empty where the
text ends behind it. -/
theorem closes_run (n : Nat) {after : Text} (h : after.head? ≠ some '}') :
    closes (List.replicate n '}' ++ after) =
      if after.isEmpty then n == 0 else n % 2 == 0 := by
  rw [closes, closesAfterPairs_run n h]
  cases after with
  | nil => cases n <;> simp [List.replicate_succ]
  | cons c rest => simp

theorem even_run_succ (m : Nat) (after : Text) :
    List.replicate (2 * (m + 1)) '}' ++ after =
      '}' :: '}' :: (List.replicate (2 * m) '}' ++ after) := by
  rw [Nat.mul_succ, List.replicate_succ, List.replicate_succ]
  rfl

/-- Before an even run of closing braces and other text two closing braces count. -/
theorem closes_even_run (m : Nat) {after : Text} (h : after.head? ≠ some '}') (hne : after ≠ []) :
    closes (List.replicate (2 * m) '}' ++ after) = true := by
  rw [closes_run _ h, if_neg (by simpa using hne), Nat.mul_mod_right]
  rfl

/-- Whether two closing braces count is settled by what follows them up to a character that is no
closing brace. -/
theorem closes_run_append (n : Nat) {d : Char} {after : Text}
    (h : (d :: after).head? ≠ some '}') (text : Text) :
    closes (List.replicate n '}' ++ d :: after ++ text) =
      closes (List.replicate n '}' ++ d :: after) := by
  have hhead : (d :: after ++ text).head? ≠ some '}' := h
  rw [List.append_assoc, closes_run n h, closes_run n hhead]
  rfl

theorem splitClosing_pair {rest : Text} (h : closes rest = true) :
    splitClosing ('}' :: '}' :: rest) = [] :: splitClosing rest := by
  simp [splitClosing, h]

theorem splitClosing_cons {c : Char} {rest : Text}
    (h : c = '}' → ∀ after, rest = '}' :: after → closes after = false) :
    splitClosing (c :: rest) = (splitClosing rest).modifyHead (c :: ·) := by
  cases rest with
  | nil => rfl
  | cons d rest =>
      have hpair : ¬(c = '}' ∧ d = '}' ∧ closes rest = true) := by
        rintro ⟨hc, rfl, hcloses⟩
        rw [h hc rest rfl] at hcloses
        cases hcloses
      rw [splitClosing, if_neg hpair]

theorem splitClosing_ne_nil (t : Text) : splitClosing t ≠ [] := by
  fun_induction splitClosing t with
  | case1 => simp
  | case2 => simp
  | case3 => simp
  | case4 c d rest h ih => simpa using ih

/-- Two texts are cut one by one if no pair reaches from the first into the second, and if what
follows the first one makes no difference to its pairs. -/
theorem splitClosing_append_eq_glue {piece text : Text}
    (hpairs : ∀ rest, '}' :: '}' :: rest <:+ piece → closes (rest ++ text) = closes rest)
    (hlast : piece.getLast? = some '}' → text.head? ≠ some '}') :
    splitClosing (piece ++ text) = glue (splitClosing piece) (splitClosing text) := by
  fun_induction splitClosing piece with
  | case1 => exact (glue_nil_piece _).symm
  | case2 c =>
      have hstays : c = '}' → ∀ after, text = '}' :: after → closes after = false := by
        rintro rfl after rfl
        exact absurd rfl (hlast rfl)
      rw [List.singleton_append, splitClosing_cons hstays, glue_singleton]
      rfl
  | case3 c d rest hpair ih =>
      obtain ⟨rfl, rfl, hcloses⟩ := hpair
      have hrest : rest.getLast? = some '}' → text.head? ≠ some '}' := by
        intro h
        cases rest with
        | nil => cases h
        | cons e rest => exact hlast h
      rw [List.cons_append, List.cons_append,
        splitClosing_pair ((hpairs rest List.suffix_rfl).trans hcloses),
        ih (fun more hmore => hpairs more (hmore.trans (List.suffix_append ['}', '}'] rest))) hrest,
        glue_cons [] (splitClosing_ne_nil rest)]
  | case4 c d rest hpair ih =>
      have hrest : (d :: rest).getLast? = some '}' → text.head? ≠ some '}' := by
        rwa [List.getLast?_cons_cons] at hlast
      have hstays : c = '}' → ∀ after, d :: rest ++ text = '}' :: after →
          closes after = false := by
        rintro rfl after heq
        obtain ⟨rfl, rfl⟩ := List.cons.inj heq
        rw [List.append_eq, hpairs rest List.suffix_rfl]
        simpa using hpair
      rw [List.cons_append, splitClosing_cons hstays,
        ih (fun more hmore => hpairs more (hmore.trans (List.suffix_cons c (d :: rest)))) hrest,
        glue_modifyHead c (splitClosing_ne_nil _)]

/-- Text without a closing brace stays in one fragment with what follows. -/
theorem splitClosing_append {x : Text} (hx : '}' ∉ x) (rest : Text) :
    splitClosing (x ++ rest) = (splitClosing rest).modifyHead (x ++ ·) := by
  induction x with
  | nil =>
      obtain ⟨first, fragments, h⟩ := List.exists_cons_of_ne_nil (splitClosing_ne_nil rest)
      rw [List.nil_append, h]
      rfl
  | cons c x ih =>
      obtain ⟨hc, hx⟩ := not_or.1 (mt List.mem_cons.2 hx)
      rw [List.cons_append, splitClosing_cons fun h => absurd h.symm hc, ih hx,
        List.modifyHead_modifyHead]
      rfl

/-- A closing brace before an even run of closing braces stays. -/
theorem splitClosing_cons_run (m : Nat) {after : Text} (h : after.head? ≠ some '}') :
    splitClosing ('}' :: (List.replicate (2 * m) '}' ++ after)) =
      (splitClosing (List.replicate (2 * m) '}' ++ after)).modifyHead ('}' :: ·) := by
  apply splitClosing_cons
  rintro - rest hrest
  cases m with
  | zero =>
      have : after.head? = some '}' := by
        rw [Nat.mul_zero, List.replicate_zero, List.nil_append] at hrest
        rw [hrest]
        rfl
      exact absurd this h
  | succ m =>
      have hodd : rest = List.replicate (2 * m + 1) '}' ++ after := by
        rw [Nat.mul_succ, List.replicate_succ] at hrest
        exact (List.cons.inj hrest).2.symm
      rw [hodd, closes_run _ h]
      split
      · exact beq_eq_false_iff_ne.2 (Nat.succ_ne_zero (2 * m))
      · exact beq_eq_false_iff_ne.2 (by omega)

/-- Of a run of closing braces at the end only the last two count. -/
theorem splitClosing_run (n : Nat) :
    splitClosing (List.replicate (n + 2) '}') = [List.replicate n '}', []] := by
  induction n with
  | zero => rfl
  | succ n ih =>
      have hstays : closes (List.replicate (n + 1) '}') = false := by
        have := closes_run (n + 1) (show ([] : Text).head? ≠ some '}' by simp)
        rwa [List.append_nil] at this
      have hcons : splitClosing (List.replicate (n + 3) '}') =
          (splitClosing (List.replicate (n + 2) '}')).modifyHead ('}' :: ·) := by
        apply splitClosing_cons
        rintro - rest hrest
        cases hrest
        exact hstays
      rw [hcons, ih]
      rfl

/-! ## Spans -/

theorem spans_cons {c : Char} (h : c ≠ '{') (rest : Text) :
    spans (c :: rest) = prependText [c] (spans rest) := by
  simp [spans, scanSpans, h]

/-- What is read after an opening brace becomes a span at the next closing brace. -/
theorem scanSpans_pending {p : Text} (hp : '}' ∉ p) (read rest : Text)
    (hne : read ≠ [] ∨ p ≠ []) :
    scanSpans (some read) (p ++ '}' :: rest) =
      .span (read.reverse ++ p) :: scanSpans none rest := by
  induction p generalizing read with
  | nil =>
      have hread : read ≠ [] := hne.resolve_right (not_not_intro rfl)
      simp [scanSpans, hread]
  | cons c p ih =>
      obtain ⟨hc, hp⟩ := not_or.1 (mt List.mem_cons.2 hp)
      rw [List.cons_append, scanSpans, if_pos (Ne.symm hc), ih hp (c :: read) (.inl (by simp))]
      simp

theorem spans_span {p : Text} (hne : p ≠ []) (hp : '}' ∉ p) (rest : Text) :
    spans ('{' :: (p ++ '}' :: rest)) = .span p :: spans rest := by
  simp [spans, scanSpans, scanSpans_pending hp [] rest (.inr hne)]

theorem scanSpans_unclosed {text : Text} (h : '}' ∉ text) (read : Text) :
    scanSpans (some read) text = [.literal ('{' :: (read.reverse ++ text))] := by
  induction text generalizing read with
  | nil => rw [scanSpans, List.append_nil]
  | cons c rest ih =>
      obtain ⟨hc, hrest⟩ := not_or.1 (mt List.mem_cons.2 h)
      rw [scanSpans, if_pos (Ne.symm hc), ih hrest]
      simp

theorem atoms_spans_of_no_closing {text : Text} (h : '}' ∉ text) :
    atoms (spans text) = literalAtoms text := by
  induction text with
  | nil => rfl
  | cons c rest ih =>
      obtain ⟨hc, hrest⟩ := not_or.1 (mt List.mem_cons.2 h)
      by_cases hopen : c = '{'
      · subst hopen
        rw [spans, scanSpans, if_pos rfl, scanSpans_unclosed hrest]
        exact List.append_nil _
      · rw [spans_cons hopen, atoms_prependText, ih hrest]
        rfl

theorem atoms_spans_append_of_no_opening {text : Text} (h : '{' ∉ text) (rest : Text) :
    atoms (spans (text ++ rest)) = literalAtoms text ++ atoms (spans rest) := by
  induction text with
  | nil => rfl
  | cons c text ih =>
      obtain ⟨hc, htext⟩ := not_or.1 (mt List.mem_cons.2 h)
      rw [List.cons_append, spans_cons (Ne.symm hc), atoms_prependText, ih htext]
      rfl

theorem atoms_spans_run (n : Nat) :
    atoms (spans (List.replicate n '}')) = List.replicate n (.char '}') := by
  induction n with
  | zero => rfl
  | succ n ih => rw [List.replicate_succ, spans_cons (by decide), atoms_prependText, ih]; rfl

/-! ## Pieces -/

@[simp] theorem pieceAtoms_nil : pieceAtoms [] = [] := rfl

theorem pieceAtoms_pair {rest : Text} (h : closes rest = true) :
    pieceAtoms ('}' :: '}' :: rest) = .char '}' :: pieceAtoms rest := by
  have hne : (splitClosing rest).map spans ≠ [] := by
    simpa using splitClosing_ne_nil rest
  rw [pieceAtoms, splitClosing_pair h, List.map_cons, atoms_joinSegments_cons _ _ hne]
  rfl

/-- Text that stays in the first fragment of a piece, and whose atoms do not depend on what
follows there, adds its atoms to those of the piece. -/
theorem pieceAtoms_append {x rest : Text} {before : List Atom}
    (hsplit : splitClosing (x ++ rest) = (splitClosing rest).modifyHead (x ++ ·))
    (hspans : ∀ fragment, atoms (spans (x ++ fragment)) = before ++ atoms (spans fragment)) :
    pieceAtoms (x ++ rest) = before ++ pieceAtoms rest := by
  obtain ⟨first, fragments, h⟩ := List.exists_cons_of_ne_nil (splitClosing_ne_nil rest)
  rw [pieceAtoms, hsplit, pieceAtoms, h]
  exact atoms_joinSegments_of_first (hspans first) (fragments.map spans)

theorem pieceAtoms_cons {c : Char} (hopen : c ≠ '{') (hclose : c ≠ '}') (rest : Text) :
    pieceAtoms (c :: rest) = .char c :: pieceAtoms rest := by
  change pieceAtoms ([c] ++ rest) = [.char c] ++ pieceAtoms rest
  apply pieceAtoms_append
  · exact splitClosing_cons fun h => absurd h hclose
  · intro fragment
    rw [List.singleton_append, spans_cons hopen, atoms_prependText]
    rfl

/-- Before other text every pair of an even run of closing braces counts. -/
theorem pieceAtoms_run (m : Nat) {after : Text} (h : after.head? ≠ some '}') (hne : after ≠ []) :
    pieceAtoms (List.replicate (2 * m) '}' ++ after) =
      List.replicate m (.char '}') ++ pieceAtoms after := by
  induction m with
  | zero => rfl
  | succ m ih =>
      rw [even_run_succ, pieceAtoms_pair (closes_even_run m h hne), ih, List.replicate_succ]
      rfl

/-- At the end of a piece only the last pair of an even run of closing braces counts. -/
theorem pieceAtoms_last_run (m : Nat) :
    pieceAtoms (List.replicate (2 * m) '}') = List.replicate (2 * m - 1) (.char '}') := by
  cases m with
  | zero => rfl
  | succ m =>
      rw [Nat.mul_succ, pieceAtoms, splitClosing_run, List.map_cons, List.map_cons, List.map_nil,
        atoms_joinSegments_cons _ _ (by simp), atoms_spans_run]
      change _ ++ [Atom.char '}'] ++ [] = _
      rw [List.append_nil, ← List.replicate_succ', show 2 * m + 2 - 1 = 2 * m + 1 from rfl]

/-- A span is filled as a whole where an even run of closing braces follows. -/
theorem pieceAtoms_span {p : Text} (hne : p ≠ []) (hp : '}' ∉ p) (m : Nat) {after : Text}
    (h : after.head? ≠ some '}') :
    pieceAtoms (('{' :: p ++ ['}']) ++ (List.replicate (2 * m) '}' ++ after)) =
      .span p :: pieceAtoms (List.replicate (2 * m) '}' ++ after) := by
  have hnot : '}' ∉ '{' :: p := by simpa using hp
  change _ = [.span p] ++ pieceAtoms _
  apply pieceAtoms_append
  · rw [List.append_assoc, splitClosing_append hnot, List.singleton_append,
      splitClosing_cons_run m h, List.modifyHead_modifyHead]
    congr 1
    funext fragment
    simp
  · intro fragment
    have hspan : ('{' :: p ++ ['}']) ++ fragment = '{' :: (p ++ '}' :: fragment) := by simp
    rw [hspan, spans_span hne hp]
    rfl

/-! ## Templates -/

theorem parse_doubled (rest : Text) : parse ('{' :: '{' :: rest) = .char '{' :: parse rest := by
  have hne : (splitOpening rest).map (fun piece =>
      joinSegments ['}'] ((splitClosing piece).map spans)) ≠ [] := by
    simpa using splitOpening_ne_nil rest
  rw [parse, segments, splitOpening_doubled, List.map_cons, atoms_joinSegments_cons _ _ hne]
  rfl

/-- Text that stays in the first piece of a template, and there adds some atoms to the piece,
adds them to the template. -/
theorem parse_append {x rest : Text} {before : List Atom}
    (hsplit : splitOpening (x ++ rest) = (splitOpening rest).modifyHead (x ++ ·))
    (hpiece : ∀ first pieces, splitOpening rest = first :: pieces →
      pieceAtoms (x ++ first) = before ++ pieceAtoms first) :
    parse (x ++ rest) = before ++ parse rest := by
  obtain ⟨first, pieces, h⟩ := List.exists_cons_of_ne_nil (splitOpening_ne_nil rest)
  rw [parse, segments, hsplit, parse, segments, h]
  exact atoms_joinSegments_of_first (hpiece first pieces h) _

theorem parse_cons {c : Char} (hopen : c ≠ '{') (hclose : c ≠ '}') (rest : Text) :
    parse (c :: rest) = .char c :: parse rest := by
  change parse ([c] ++ rest) = [.char c] ++ parse rest
  apply parse_append
  · exact splitOpening_cons fun h => absurd h hopen
  · intro first _ _
    exact pieceAtoms_cons hopen hclose first

theorem splitOpening_append_run (n : Nat) (rest : Text) :
    splitOpening (List.replicate n '}' ++ rest) =
      (splitOpening rest).modifyHead (List.replicate n '}' ++ ·) := by
  apply splitOpening_append
  · intro h
    have := List.eq_of_mem_replicate (h.subset List.mem_cons_self)
    exact absurd this (by decide)
  · intro h
    have := List.eq_of_mem_replicate (List.mem_of_getLast? h)
    exact absurd this (by decide)

/-- The braces that an even run of closing braces leaves: one for each pair, but all of the run
except one where its piece ends behind it. -/
theorem parse_run (m : Nat) {rest : Text} (h : rest.head? ≠ some '}') :
    parse (List.replicate (2 * m) '}' ++ rest) =
      List.replicate (if endsPiece rest then 2 * m - 1 else m) (.char '}') ++ parse rest := by
  apply parse_append (splitOpening_append_run (2 * m) rest)
  intro first pieces hfirst
  rcases first_piece rest with ⟨hends, _, hsplit⟩ | ⟨hends, c, r, f, _, rfl, hsplit⟩
  · obtain ⟨rfl, -⟩ := List.cons.inj (hfirst.symm.trans hsplit)
    rw [if_pos hends, List.append_nil, pieceAtoms_last_run, pieceAtoms_nil, List.append_nil]
  · obtain ⟨rfl, -⟩ := List.cons.inj (hfirst.symm.trans hsplit)
    have hfirst' : (c :: f).head? ≠ some '}' := h
    rw [if_neg (by simp [hends]), pieceAtoms_run m hfirst' (List.cons_ne_nil c f)]

/-- What may stand between the braces of a span so that no scanner takes it for anything else. -/
structure IsPattern (p : Text) : Prop where
  ne_nil : p ≠ []
  no_closing : '}' ∉ p
  not_opening : p.head? ≠ some '{'
  no_doubled : ¬['{', '{'] <:+: p

theorem IsPattern.splitOpening_span {p : Text} (hp : IsPattern p) (rest : Text) :
    splitOpening (('{' :: p ++ ['}']) ++ rest) =
      (splitOpening rest).modifyHead (('{' :: p ++ ['}']) ++ ·) := by
  apply splitOpening_append
  · intro h
    rw [List.cons_append, List.infix_cons_iff] at h
    rcases h with hprefix | hinfix
    · obtain ⟨c, p', rfl⟩ := List.exists_cons_of_ne_nil hp.ne_nil
      obtain ⟨rest, hrest⟩ := hprefix
      exact hp.not_opening (by simpa using (List.cons.inj (List.cons.inj hrest).2).1.symm)
    · have hp' : ['{', '{'] <:+: p := by
        rw [List.infix_concat_iff] at hinfix
        rcases hinfix with hsuffix | hinfix
        · have := hsuffix.getLast (by simp)
          simp at this
        · exact hinfix
      exact hp.no_doubled hp'
  · rw [List.getLast?_concat]
    decide

/-- A span is one atom where an even run of closing braces follows. -/
theorem IsPattern.parse_span {p : Text} (hp : IsPattern p) (m : Nat) {rest : Text}
    (h : rest.head? ≠ some '}') :
    parse (('{' :: p ++ ['}']) ++ (List.replicate (2 * m) '}' ++ rest)) =
      .span p :: parse (List.replicate (2 * m) '}' ++ rest) := by
  change _ = [.span p] ++ parse _
  apply parse_append (hp.splitOpening_span _)
  intro first pieces hfirst
  obtain ⟨first', pieces', hsplit⟩ := List.exists_cons_of_ne_nil (splitOpening_ne_nil rest)
  rw [splitOpening_append_run, hsplit, List.modifyHead_cons] at hfirst
  obtain ⟨rfl, -⟩ := List.cons.inj hfirst
  have hfirst' : first'.head? ≠ some '}' := by
    rcases first_piece rest with ⟨-, _, hs⟩ | ⟨-, c, r, f, _, rfl, hs⟩
    · obtain ⟨rfl, -⟩ := List.cons.inj (hsplit.symm.trans hs)
      simp
    · obtain ⟨rfl, -⟩ := List.cons.inj (hsplit.symm.trans hs)
      exact h
  exact pieceAtoms_span hp.ne_nil hp.no_closing m hfirst'

end Phrasebook.Template
