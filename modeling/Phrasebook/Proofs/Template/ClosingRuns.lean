import Phrasebook.Proofs.Template.SinglePass

/-!
# Which doubled closing braces count

The doubled closing braces that count can be told run by run. Before another character every pair of
a run counts, and of an odd run the first brace stays. At the end of the text only the last pair of
a run counts, and all braces before it stay. So each run comes to some pieces by itself, whose outer
ones grow together with the pieces of the text on both sides.

The same separators are found by looking for them from the left: a separator is a pair with nothing
behind it, or with pairs and then another character behind it, and the next one is looked for behind
the one found last.
-/

namespace Phrasebook.Template

/-! ## Runs -/

theorem closes_append_of_last {rest : Text} (hne : rest ≠ []) (hlast : rest.getLast? ≠ some '}')
    (text : Text) : closes (rest ++ text) = closes rest := by
  obtain ⟨n, after, rfl, hafter⟩ := exists_run rest
  cases after with
  | nil =>
      cases n with
      | zero => exact absurd rfl hne
      | succ n => simp [List.getLast?_replicate] at hlast
  | cons d after => exact closes_run_append n hafter text

/-- A text that does not end in a closing brace is cut as it is by itself, whatever follows it. -/
theorem splitClosing_append_of_last {before : Text} (h : before.getLast? ≠ some '}')
    (rest : Text) :
    splitClosing (before ++ rest) = glue (splitClosing before) (splitClosing rest) := by
  refine splitClosing_append_eq_glue ?_ fun hlast => absurd hlast h
  -- Behind each pair of braces there is another character before the text ends.
  rintro more ⟨first, rfl⟩
  cases more with
  | nil => simp at h
  | cons c more =>
      have hlast : (c :: more).getLast? ≠ some '}' := fun hlast =>
        h (by simp [List.getLast?_append, hlast])
      exact closes_append_of_last (List.cons_ne_nil c more) hlast rest

theorem splitClosing_even_run (m : Nat) {after : Text} (h : after.head? ≠ some '}')
    (hne : after ≠ []) :
    splitClosing (List.replicate (2 * m) '}' ++ after) =
      glue ([] :: List.replicate m []) (splitClosing after) := by
  induction m with
  | zero => exact (glue_nil_piece _).symm
  | succ m ih =>
      rw [even_run_succ, splitClosing_pair (closes_even_run m h hne), ih, List.replicate_succ,
        glue_cons [] (List.cons_ne_nil _ _)]

/-- Before another character every pair of a run counts, and the first brace of an odd run stays. -/
theorem splitClosing_run_cons (m : Nat) {c : Char} (hc : c ≠ '}') (after : Text) :
    splitClosing (List.replicate m '}' ++ c :: after) =
      glue (List.replicate (m % 2) '}' :: List.replicate (m / 2) [])
        (splitClosing (c :: after)) := by
  have hhead : (c :: after).head? ≠ some '}' := by simpa using hc
  have heven := splitClosing_even_run (m / 2) hhead (List.cons_ne_nil c after)
  rcases Nat.mod_two_eq_zero_or_one m with hm | hm
  · have hrun : m = 2 * (m / 2) := by omega
    rw [hm, List.replicate_zero, ← heven, ← hrun]
  · have hrun : List.replicate m '}' ++ c :: after =
        '}' :: (List.replicate (2 * (m / 2)) '}' ++ c :: after) := by
      have : m = 2 * (m / 2) + 1 := by omega
      rw [← List.cons_append, ← List.replicate_succ, ← this]
    rw [hm, hrun, splitClosing_cons_run (m / 2) hhead, heven,
      ← glue_modifyHead '}' (List.cons_ne_nil _ _)]
    rfl

/-- At the end of a text only the last pair of a run counts. -/
theorem splitClosing_last_run (m : Nat) :
    splitClosing (List.replicate m '}') =
      if m < 2 then [List.replicate m '}'] else [List.replicate (m - 2) '}', []] := by
  match m with
  | 0 => rfl
  | 1 => rfl
  | m + 2 =>
      rw [splitClosing_run, if_neg (by omega), Nat.add_sub_cancel]

/-! ## From the left -/

/-- The text begins with a separator: two closing braces, and behind them nothing, or any number of
pairs of closing braces and then another character. -/
def StartsSeparator (text : Text) : Prop :=
  ∃ rest, text = '}' :: '}' :: rest ∧
    (rest = [] ∨ ∃ k c after, rest = List.replicate (2 * k) '}' ++ c :: after ∧ c ≠ '}')

theorem closes_eq_true_iff {rest : Text} :
    closes rest = true ↔
      rest = [] ∨ ∃ k c after, rest = List.replicate (2 * k) '}' ++ c :: after ∧ c ≠ '}' := by
  constructor
  · intro h
    obtain ⟨n, after, rfl, hafter⟩ := exists_run rest
    rw [closes_run n hafter] at h
    cases after with
    | nil =>
        obtain rfl : n = 0 := by simpa using h
        exact .inl rfl
    | cons c after =>
        have hn : n % 2 = 0 := by simpa using h
        refine .inr ⟨n / 2, c, after, ?_, by simpa using hafter⟩
        rw [Nat.mul_div_cancel' (Nat.dvd_of_mod_eq_zero hn)]
  · rintro (rfl | ⟨k, c, after, rfl, hc⟩)
    · rfl
    · exact closes_even_run k (by simpa using hc) (List.cons_ne_nil c after)

theorem startsSeparator_iff {c d : Char} {rest : Text} :
    StartsSeparator (c :: d :: rest) ↔ c = '}' ∧ d = '}' ∧ closes rest = true := by
  rw [closes_eq_true_iff]
  constructor
  · rintro ⟨rest, heq, h⟩
    cases heq
    exact ⟨rfl, rfl, h⟩
  · rintro ⟨rfl, rfl, h⟩
    exact ⟨rest, rfl, h⟩

/-- A character that begins no separator stays in its piece. -/
theorem splitClosing_cons_of_not_startsSeparator {c : Char} {rest : Text}
    (h : ¬StartsSeparator (c :: rest)) :
    splitClosing (c :: rest) = (splitClosing rest).modifyHead (c :: ·) := by
  apply splitClosing_cons
  rintro rfl after rfl
  simpa [startsSeparator_iff] using h

/-- A text is cut at the leftmost separators that do not overlap: at the first one of all, and then
at those of what is behind it. -/
inductive CutFromLeft : Text → List Text → Prop
  | last {text : Text} (absent : ∀ rest, rest <:+ text → ¬StartsSeparator rest) :
    CutFromLeft text [text]
  | cut {before rest : Text} {pieces : List Text}
    (found : StartsSeparator ('}' :: '}' :: rest))
    (leftmost : ∀ tail, tail <:+ before → tail ≠ [] →
      ¬StartsSeparator (tail ++ '}' :: '}' :: rest))
    (behind : CutFromLeft rest pieces) :
    CutFromLeft (before ++ '}' :: '}' :: rest) (before :: pieces)

theorem CutFromLeft.cons {c : Char} {text first : Text} {pieces : List Text}
    (h : CutFromLeft text (first :: pieces)) (hc : ¬StartsSeparator (c :: text)) :
    CutFromLeft (c :: text) ((c :: first) :: pieces) := by
  cases h with
  | last absent =>
      refine .last fun rest hrest => ?_
      rcases List.suffix_cons_iff.1 hrest with rfl | hrest
      · exact hc
      · exact absent rest hrest
  | @cut _ rest _ found leftmost behind =>
      change CutFromLeft ((c :: first) ++ '}' :: '}' :: rest) _
      refine .cut found (fun tail htail hne => ?_) behind
      rcases List.suffix_cons_iff.1 htail with rfl | htail
      · exact hc
      · exact leftmost tail htail hne

theorem cutFromLeft_splitClosing (text : Text) : CutFromLeft text (splitClosing text) := by
  fun_induction splitClosing text with
  | case1 =>
      refine .last fun rest hrest => ?_
      rw [List.suffix_nil.1 hrest]
      rintro ⟨_, heq, -⟩
      cases heq
  | case2 c =>
      refine .last fun rest hrest => ?_
      rintro ⟨more, rfl, -⟩
      have := hrest.length_le
      simp at this
  | case3 c d rest hpair ih =>
      obtain ⟨rfl, rfl, hcloses⟩ := hpair
      change CutFromLeft ([] ++ '}' :: '}' :: rest) _
      refine .cut (startsSeparator_iff.2 ⟨rfl, rfl, hcloses⟩) (fun tail htail hne => ?_) ih
      exact absurd (List.suffix_nil.1 htail) hne
  | case4 c d rest hpair ih =>
      obtain ⟨first, pieces, hsplit⟩ :=
        List.exists_cons_of_ne_nil (splitClosing_ne_nil (d :: rest))
      rw [hsplit] at ih ⊢
      exact ih.cons (mt startsSeparator_iff.1 hpair)

theorem splitClosing_of_no_separator {text : Text}
    (absent : ∀ rest, rest <:+ text → ¬StartsSeparator rest) : splitClosing text = [text] := by
  induction text with
  | nil => rfl
  | cons c text ih =>
      rw [splitClosing_cons_of_not_startsSeparator (absent _ List.suffix_rfl),
        ih fun rest hrest => absent rest (hrest.trans (List.suffix_cons c text))]
      rfl

theorem splitClosing_leftmost {before rest : Text} (found : StartsSeparator ('}' :: '}' :: rest))
    (leftmost : ∀ tail, tail <:+ before → tail ≠ [] →
      ¬StartsSeparator (tail ++ '}' :: '}' :: rest)) :
    splitClosing (before ++ '}' :: '}' :: rest) = before :: splitClosing rest := by
  induction before with
  | nil => exact splitClosing_pair (startsSeparator_iff.1 found).2.2
  | cons c before ih =>
      have hstays : ¬StartsSeparator (c :: (before ++ '}' :: '}' :: rest)) :=
        leftmost (c :: before) List.suffix_rfl (List.cons_ne_nil c before)
      rw [List.cons_append, splitClosing_cons_of_not_startsSeparator hstays,
        ih fun tail htail => leftmost tail (htail.trans (List.suffix_cons c before))]
      rfl

theorem CutFromLeft.splitClosing_eq {text : Text} {pieces : List Text}
    (h : CutFromLeft text pieces) : splitClosing text = pieces := by
  induction h with
  | last absent => exact splitClosing_of_no_separator absent
  | cut found leftmost behind ih => rw [splitClosing_leftmost found leftmost, ih]

/-- Cutting a text at the doubled closing braces that count loses nothing, and which pairs count is
told run by run. A run before another character keeps its first brace if it is odd, and each of its
pairs is a separator. Of a run at the end of the text only the last pair is one, and a single brace
never is. These separators are the leftmost ones that do not overlap, among the pairs with nothing
behind them or with pairs and then another character behind them. -/
theorem splitClosing_run_by_run (text : Text) :
    Text.join ['}', '}'] (splitClosing text) = text ∧
      ('}' ∉ text → splitClosing text = [text]) ∧
      (∀ before m c after, text = before ++ (List.replicate m '}' ++ c :: after) →
        before.getLast? ≠ some '}' → c ≠ '}' →
        splitClosing text = glue (splitClosing before)
          (glue (List.replicate (m % 2) '}' :: List.replicate (m / 2) [])
            (splitClosing (c :: after)))) ∧
      (∀ before m, text = before ++ List.replicate m '}' → before.getLast? ≠ some '}' →
        splitClosing text = glue (splitClosing before)
          (if m < 2 then [List.replicate m '}'] else [List.replicate (m - 2) '}', []])) ∧
      ∀ pieces, CutFromLeft text pieces ↔ splitClosing text = pieces := by
  refine ⟨join_splitClosing text, fun h => ?_, ?_, ?_, fun pieces => ⟨?_, ?_⟩⟩
  · rw [← List.append_nil text, splitClosing_append h]
    simp [splitClosing]
  · rintro before m c after rfl hbefore hc
    rw [splitClosing_append_of_last hbefore, splitClosing_run_cons m hc]
  · rintro before m rfl hbefore
    rw [splitClosing_append_of_last hbefore, splitClosing_last_run]
  · exact CutFromLeft.splitClosing_eq
  · rintro rfl
    exact cutFromLeft_splitClosing text

/-- An odd run in the middle and an even one at the end. -/
theorem splitClosing_run_by_run_mixed :
    let text : Text := ['a', '}', '}', '}', 'b', '}', '}', '}', '}']
    splitClosing text =
        glue [['a']] (glue [['}'], []] (splitClosing ['b', '}', '}', '}', '}'])) ∧
      splitClosing text = glue [['a', '}'], ['b']] [['}', '}'], []] ∧
      CutFromLeft text [['a', '}'], ['b', '}', '}'], []] := by
  intro text
  obtain ⟨-, -, hmiddle, hlast, hcut⟩ := splitClosing_run_by_run text
  refine ⟨hmiddle ['a'] 3 'b' ['}', '}', '}', '}'] rfl (by decide) (by decide), ?_, ?_⟩
  · exact hlast ['a', '}', '}', '}', 'b'] 4 rfl (by decide)
  · exact (hcut _).2 rfl

end Phrasebook.Template
