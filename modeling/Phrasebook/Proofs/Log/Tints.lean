import Mathlib.Data.List.Basic
import Phrasebook.Proofs.Log.EscapeFree

/-!
# Deleting the colours from a line

A name in a colour goes into the slot of a directive with its escape sequences, which take the room
of blanks and count as characters where the slot cuts. Deleting them afterwards gives the slot with
the plain name only if no blank was left out and no sequence was cut (`showsTint_name`).

That the other slots are never alike is shown by weighing. Deleting escape sequences does not change
the weight of a line (`weigh_untinted`), and a slot that does not keep the name weighs less with the
colour than without it. So a line is the plain one without its colours exactly if all its parts are
(`ShowsTint.append`, `ShowsTint.untinted_eq_iff`).
-/

namespace Phrasebook.Log

/-! ## Texts without the sequences of a colour -/

/-- What is left of a text that begins with the sequence of a colour or with the one that ends
colours. -/
def dropSequence? (colour s : Text) : Option Text :=
  (Text.dropBeginning? (escapeSequence colour) s).orElse fun _ =>
    Text.dropBeginning? (escapeSequence ['0']) s

theorem exists_of_dropSequence? {colour s after : Text} (h : dropSequence? colour s = some after) :
    ∃ number, (number = colour ∨ number = ['0']) ∧ s = escapeSequence number ++ after := by
  unfold dropSequence? at h
  cases hcolour : Text.dropBeginning? (escapeSequence colour) s with
  | some rest =>
      rw [hcolour] at h
      cases h
      exact ⟨colour, .inl rfl, Text.dropBeginning?_eq_some_iff.1 hcolour⟩
  | none =>
      rw [hcolour] at h
      exact ⟨['0'], .inr rfl, Text.dropBeginning?_eq_some_iff.1 h⟩

/-- A text without the escape sequences that begin and end a colour. -/
def untinted (colour : Text) : Text → Text
  | [] => []
  | c :: rest =>
    match _h : dropSequence? colour (c :: rest) with
    | some after => untinted colour after
    | none => c :: untinted colour rest
termination_by s => s.length
decreasing_by
  · obtain ⟨number, -, heq⟩ := exists_of_dropSequence? _h
    have hlength := congrArg List.length heq
    simp only [escapeSequence, List.length_append, List.length_cons, List.length_nil] at hlength ⊢
    omega
  · simp

section Sequences

variable {colour number s t : Text}

theorem untinted_of_dropSequence? {after : Text} (h : dropSequence? colour s = some after) :
    untinted colour s = untinted colour after := by
  cases s with
  | nil =>
      obtain ⟨number, -, heq⟩ := exists_of_dropSequence? h
      simp [escapeSequence] at heq
  | cons c rest =>
      rw [untinted]
      split
      · rename_i found hfound
        rw [h] at hfound
        cases hfound
        rfl
      · rename_i hnone
        rw [h] at hnone
        cases hnone

theorem dropSequence?_cons_of_ne {c : Char} (h : escapeChar ≠ c) :
    dropSequence? colour (c :: s) = none := by
  simp [dropSequence?, escapeSequence, Text.dropBeginning?, h]

/-- Text without escape characters stays. -/
theorem untinted_append (h : EscapeFree s) (t : Text) :
    untinted colour (s ++ t) = s ++ untinted colour t := by
  induction s with
  | nil => rfl
  | cons c s ih =>
      obtain ⟨hc, hs⟩ := escapeFree_cons.1 h
      rw [List.cons_append, untinted]
      split
      · rename_i after hsome
        rw [dropSequence?_cons_of_ne hc] at hsome
        cases hsome
      · rw [ih hs, List.cons_append]

/-- A text of digits. -/
def AreDigits (s : Text) : Prop :=
  ∀ c ∈ s, c.isDigit = true

instance (s : Text) : Decidable (AreDigits s) :=
  List.decidableBAll (fun c : Char => c.isDigit = true) s

/-- The number of a colour: digits, the first of which is not that of the end of colours. -/
structure IsColour (colour : Text) : Prop where
  digits : AreDigits colour
  head : colour.head? ≠ some '0'

theorem isColour_of_mem {entry : Level × Text} (h : entry ∈ colours) : IsColour entry.2 where
  digits := (by decide : ∀ entry ∈ colours, AreDigits entry.2) entry h
  head := (by decide : ∀ entry ∈ colours, entry.2.head? ≠ some '0') entry h

theorem untinted_sequence (h : IsColour colour) (hnumber : number = colour ∨ number = ['0'])
    (t : Text) : untinted colour (escapeSequence number ++ t) = untinted colour t := by
  apply untinted_of_dropSequence?
  obtain rfl | rfl := hnumber
  · rw [dropSequence?, Text.dropBeginning?_eq_some_iff.2 rfl]
    rfl
  · have hnone :
        Text.dropBeginning? (escapeSequence colour) (escapeSequence ['0'] ++ t) = none := by
      have hhead := h.head
      cases colour with
      | nil => simp [escapeSequence, Text.dropBeginning?]
      | cons c rest =>
          have hc : c ≠ '0' := fun heq => hhead (congrArg some heq)
          simp [escapeSequence, Text.dropBeginning?, hc]
    rw [dropSequence?, hnone, Text.dropBeginning?_eq_some_iff.2 rfl]
    rfl

/-- A text in a colour is shown plain. -/
theorem untinted_tinted (h : IsColour colour) (hs : EscapeFree s) (t : Text) :
    untinted colour (tinted colour s ++ t) = s ++ untinted colour t := by
  rw [tinted, List.append_assoc, List.append_assoc, untinted_sequence h (.inl rfl),
    untinted_append hs, untinted_sequence h (.inr rfl)]

end Sequences

/-! ## Plain characters between quotes -/

/-- Printable ASCII but for the backslash and the single quote. -/
def IsBare (c : Char) : Prop :=
  32 ≤ c.toNat ∧ c.toNat ≤ 126 ∧ c ≠ '\\' ∧ c ≠ Text.singleQuote

instance (c : Char) : Decidable (IsBare c) :=
  inferInstanceAs (Decidable (_ ∧ _ ∧ _ ∧ _))

/-- A text of such characters. -/
def AreBare (s : Text) : Prop :=
  ∀ c ∈ s, IsBare c

instance (s : Text) : Decidable (AreBare s) :=
  List.decidableBAll IsBare s

theorem quotedChar_of_isBare {c : Char} (h : IsBare c) :
    Text.quotedChar Text.singleQuote c = [c] := by
  obtain ⟨hlow, hhigh, hbackslash, hquote⟩ := h
  have hescape : Text.escape? Text.singleQuote c = none := by
    have hcode (d : Char) (hd : d.toNat < 32) : c ≠ d := by
      rintro rfl
      omega
    simp [Text.escape?, hbackslash, hquote, hcode '\n' (by decide), hcode '\r' (by decide),
      hcode '\t' (by decide)]
  have hprintable : Text.isPrintable c = true :=
    Text.CharClass.contains_iff.2 ⟨(32, 126), List.mem_cons_self, hlow, hhigh⟩
  rw [Text.quotedChar, hescape]
  exact if_pos hprintable

theorem flatMap_quotedChar_of_areBare {s : Text} (h : AreBare s) :
    s.flatMap (Text.quotedChar Text.singleQuote) = s := by
  induction s with
  | nil => rfl
  | cons c s ih =>
      obtain ⟨hc, hs⟩ := List.forall_mem_cons.1 h
      rw [List.flatMap_cons, quotedChar_of_isBare hc, ih hs]
      rfl

theorem quoted_of_not_mem {s : Text} (h : Text.singleQuote ∉ s) : Text.quoted s =
    Text.singleQuote :: s.flatMap (Text.quotedChar Text.singleQuote) ++ [Text.singleQuote] := by
  have hcontains : s.contains Text.singleQuote = false := by
    simpa using h
  simp only [Text.quoted, hcontains, Text.quoteFor, Bool.false_and]
  rfl

/-- Bare characters stand for themselves between quotes. -/
theorem quoted_of_areBare {s : Text} (h : AreBare s) :
    Text.quoted s = Text.singleQuote :: s ++ [Text.singleQuote] := by
  have hquote : Text.singleQuote ∉ s := fun hmem => (h _ hmem).2.2.2 rfl
  rw [quoted_of_not_mem hquote, flatMap_quotedChar_of_areBare h]

/-! ## The weight of a text -/

/-- The weight of a character. An escape sequence weighs nothing and what is left of one that is cut
off less than nothing. A backslash outweighs any text that is not long. -/
def weight (c : Char) : Int :=
  if c = escapeChar then -2
  else if c = '\\' then -100
  else if c.isDigit then 0
  else 1

/-- The weight of a text. -/
def weigh : Text → Int
  | [] => 0
  | c :: s => weight c + weigh s

/-- A word that is shown as it is between quotes, where every character has the same weight. -/
def IsEvenWord (s : Text) : Prop :=
  ∀ c ∈ s, IsBare c ∧ weight c = 1

instance (s : Text) : Decidable (IsEvenWord s) :=
  List.decidableBAll (fun c => IsBare c ∧ weight c = 1) s

/-- A text without characters of negative weight. -/
def IsHeavy (s : Text) : Prop :=
  ∀ c ∈ s, 0 ≤ weight c

instance (s : Text) : Decidable (IsHeavy s) :=
  List.decidableBAll (fun c => 0 ≤ weight c) s

section Weights

variable {colour number s t : Text}

@[simp] theorem weigh_nil : weigh [] = 0 := rfl

@[simp] theorem weigh_cons (c : Char) (s : Text) : weigh (c :: s) = weight c + weigh s := rfl

@[simp] theorem weigh_append (s t : Text) : weigh (s ++ t) = weigh s + weigh t := by
  induction s with
  | nil => simp
  | cons c s ih => rw [List.cons_append, weigh_cons, weigh_cons, ih, Int.add_assoc]

theorem weigh_of_forall {w : Int} (h : ∀ c ∈ s, weight c = w) : weigh s = s.length * w := by
  induction s with
  | nil => simp
  | cons c s ih =>
      obtain ⟨hc, hs⟩ := List.forall_mem_cons.1 h
      rw [weigh_cons, hc, ih hs, List.length_cons]
      rw [Int.natCast_succ, Int.add_mul, Int.one_mul, Int.add_comm]

theorem weigh_fill (n : Nat) : weigh (Text.fill n ' ') = n := by
  have hblank : ∀ c ∈ Text.fill n ' ', weight c = 1 := by
    intro c hc
    rw [List.eq_of_mem_replicate hc]
    rfl
  rw [weigh_of_forall hblank, Text.fill, List.length_replicate, Int.mul_one]

theorem weight_le (c : Char) : weight c ≤ 1 := by
  unfold weight
  split_ifs <;> decide

theorem weigh_le_length (s : Text) : weigh s ≤ s.length := by
  induction s with
  | nil => simp
  | cons c s ih =>
      have := weight_le c
      rw [weigh_cons, List.length_cons]
      push_cast
      omega

theorem weigh_nonneg (h : IsHeavy s) : 0 ≤ weigh s := by
  induction s with
  | nil => exact Int.le_refl 0
  | cons c s ih =>
      obtain ⟨hc, hs⟩ := List.forall_mem_cons.1 h
      exact Int.add_nonneg hc (ih hs)

theorem IsBare.escapeChar_ne {c : Char} (h : IsBare c) : escapeChar ≠ c := by
  rintro rfl
  exact absurd h.1 (by decide)

theorem AreBare.escapeFree (h : AreBare s) : EscapeFree s :=
  fun hmem => (h _ hmem).escapeChar_ne rfl

theorem AreBare.isAscii (h : AreBare s) : Text.IsAscii s := by
  intro c hc
  have hhigh := (h c hc).2.1
  omega

theorem AreBare.isHeavy (h : AreBare s) : IsHeavy s := by
  intro c hc
  have hescape := (h c hc).escapeChar_ne.symm
  have hbackslash := (h c hc).2.2.1
  unfold weight
  rw [if_neg hescape, if_neg hbackslash]
  split_ifs <;> decide

theorem IsHeavy.escapeFree (h : IsHeavy s) : EscapeFree s :=
  fun hmem => absurd (h _ hmem) (by decide)

theorem IsEvenWord.areBare (h : IsEvenWord s) : AreBare s :=
  fun c hc => (h c hc).1

theorem IsEvenWord.weight_eq (h : IsEvenWord s) : ∀ c ∈ s, weight c = 1 :=
  fun c hc => (h c hc).2

theorem weight_of_isDigit {c : Char} (h : c.isDigit = true) : weight c = 0 := by
  have hescape : c ≠ escapeChar := by
    rintro rfl
    exact absurd h (by decide)
  have hbackslash : c ≠ '\\' := by
    rintro rfl
    exact absurd h (by decide)
  simp [weight, hescape, hbackslash, h]

/-- The beginning of an escape sequence weighs less than nothing; a whole one weighs nothing. -/
theorem weigh_take_escapeSequence (h : AreDigits number) (n : Nat) :
    weigh ((escapeSequence number).take n) ≤ 0 ∧
      (weigh ((escapeSequence number).take n) = 0 ↔
        n = 0 ∨ (escapeSequence number).length ≤ n) := by
  have hdigits (k : Nat) : weigh (number.take k) = 0 := by
    rw [weigh_of_forall fun c hc => weight_of_isDigit (h c (List.mem_of_mem_take hc)), Int.mul_zero]
  have hlength : (escapeSequence number).length = number.length + 3 := by
    simp [escapeSequence]
  rw [hlength]
  match n with
  | 0 => simp
  | 1 => simp [escapeSequence, weight]
  | k + 2 =>
      have htake : (escapeSequence number).take (k + 2) =
          [escapeChar, '['] ++ (number.take k ++ ['m'].take (k - number.length)) := by
        simp [escapeSequence, List.take_append]
      have hopening : weigh [escapeChar, '['] = -1 := by decide
      have hclosing : weigh ['m'] = 1 := by decide
      rw [htake, weigh_append, weigh_append, hdigits, hopening]
      obtain hlt | hle := Nat.lt_or_ge number.length k
      · rw [List.take_of_length_le (by simp; omega), hclosing]
        omega
      · rw [Nat.sub_eq_zero_of_le hle, List.take_zero, weigh_nil]
        omega

theorem weigh_escapeSequence (h : AreDigits number) :
    weigh (escapeSequence number) = 0 := by
  obtain ⟨-, hzero⟩ := weigh_take_escapeSequence h (escapeSequence number).length
  rw [List.take_length] at hzero
  exact hzero.2 (.inr (Nat.le_refl _))

/-- Deleting escape sequences does not change the weight of a text. -/
theorem weigh_untinted (h : IsColour colour) (s : Text) : weigh (untinted colour s) = weigh s := by
  fun_induction untinted colour s with
  | case1 => rfl
  | case2 c rest after hafter ih =>
      obtain ⟨number, hnumber, heq⟩ := exists_of_dropSequence? hafter
      have hdigits : AreDigits number := by
        obtain rfl | rfl := hnumber
        · exact h.digits
        · decide
      rw [heq, weigh_append, weigh_escapeSequence hdigits, ih, Int.zero_add]
  | case3 c rest hnone ih => rw [weigh_cons, weigh_cons, ih]

end Weights

/-! ## Lines with and without colours -/

/-- How a part of a line with colours goes with the same part of the line without them. Where it
keeps, the parts differ by escape sequences alone, whatever follows; where it does not, the part
with colours has lost weight. -/
structure ShowsTint (colour : Text) (keeps : Prop) (shown plain : Text) : Prop where
  untinted_append : keeps → ∀ rest, untinted colour (shown ++ rest) = plain ++ untinted colour rest
  weigh_le : weigh shown ≤ weigh plain
  weigh_lt : ¬keeps → weigh shown < weigh plain

namespace ShowsTint

variable {colour s shown plain shown' plain' : Text} {keeps keeps' : Prop}

theorem same (h : EscapeFree s) (hkeeps : keeps) : ShowsTint colour keeps s s where
  untinted_append _ rest := Log.untinted_append h rest
  weigh_le := Int.le_refl _
  weigh_lt hnot := absurd hkeeps hnot

theorem congr (h : ShowsTint colour keeps shown plain) (hiff : keeps' ↔ keeps) :
    ShowsTint colour keeps' shown plain where
  untinted_append hkeeps := h.untinted_append (hiff.1 hkeeps)
  weigh_le := h.weigh_le
  weigh_lt hnot := h.weigh_lt fun hkeeps => hnot (hiff.2 hkeeps)

theorem append (h : ShowsTint colour keeps shown plain)
    (h' : ShowsTint colour keeps' shown' plain') :
    ShowsTint colour (keeps ∧ keeps') (shown ++ shown') (plain ++ plain') where
  untinted_append hkeeps rest := by
    rw [List.append_assoc, h.untinted_append hkeeps.1, h'.untinted_append hkeeps.2,
      List.append_assoc]
  weigh_le := by
    rw [weigh_append, weigh_append]
    exact Int.add_le_add h.weigh_le h'.weigh_le
  weigh_lt hnot := by
    rw [weigh_append, weigh_append]
    obtain hkeeps | hkeeps := Classical.em keeps
    · exact Int.add_lt_add_of_le_of_lt h.weigh_le (h'.weigh_lt fun hk => hnot ⟨hkeeps, hk⟩)
    · exact Int.add_lt_add_of_lt_of_le (h.weigh_lt hkeeps) h'.weigh_le

/-- Deleting the escape sequences from a line gives the line without colours exactly if the line
keeps. -/
theorem untinted_eq_iff (h : ShowsTint colour keeps shown plain) (hcolour : IsColour colour) :
    untinted colour shown = plain ↔ keeps := by
  constructor
  · intro heq
    refine Classical.byContradiction fun hnot => ?_
    have hweigh := weigh_untinted hcolour shown
    rw [heq] at hweigh
    have hlt := h.weigh_lt hnot
    omega
  · intro hkeeps
    have heq := h.untinted_append hkeeps []
    rwa [List.append_nil, untinted, List.append_nil] at heq

end ShowsTint

/-! ## The slot of a level name -/

section Slots

variable {slot : Slot} {colour name s shown plain : Text} {keeps : Prop}

namespace Slot

theorem cut_eq_take {n : Nat} (h : s.length ≤ n) (slot : Slot) :
    slot.cut s = textual (s.take (slot.precision.getD n)) := by
  cases hprecision : slot.precision with
  | none => rw [Option.getD_none, List.take_of_length_le h, cut, hprecision]
  | some k => rw [Option.getD_some, cut, hprecision]

theorem layOut_of_le (h : slot.width ≤ s.length) : slot.layOut (textual s) = s := by
  have hroom : slot.width - s.length = 0 := by omega
  simp [layOut, textual, Text.fill, hroom]

/-- The blanks that fill a slot add to the weight of a text. -/
theorem weigh_layOut (slot : Slot) (s : Text) :
    weigh (slot.layOut (textual s)) = weigh s + (slot.width - s.length : Nat) := by
  simp only [layOut, textual, List.length_nil, Nat.zero_add, List.nil_append, List.append_nil,
    Bool.false_and, Bool.false_eq_true, if_false]
  split_ifs
  · rw [weigh_append, weigh_fill]
  · rw [weigh_append, weigh_fill, Int.add_comm]

/-- Whether a slot shows a name in a colour as it shows the plain name: it shows nothing of
either, or it adds no blanks and cuts nothing off but the end of the colour. -/
def KeepsTint (slot : Slot) (colour name : Text) : Prop :=
  let count := slot.precision.getD (tinted colour name).length
  count = 0 ∨ slot.width ≤ name.length ∧
    (count = (escapeSequence colour ++ name).length ∨ (tinted colour name).length ≤ count)

/-- Whether a slot shows no more of a text than a beginning of it. -/
def CutsWithin (slot : Slot) (lead : Text) : Prop :=
  ∃ n ∈ slot.precision, n ≤ lead.length

instance (slot : Slot) (colour name : Text) : Decidable (slot.KeepsTint colour name) :=
  inferInstanceAs (Decidable (_ ∨ _ ∧ (_ ∨ _)))

instance (slot : Slot) (lead : Text) : Decidable (slot.CutsWithin lead) :=
  inferInstanceAs (Decidable (∃ n ∈ slot.precision, n ≤ lead.length))

end Slot

theorem ShowsTint.layOut (h : ShowsTint colour keeps shown plain)
    (hlength : plain.length ≤ shown.length) (hkeeps : keeps → plain.length < shown.length)
    (slot : Slot) : ShowsTint colour (keeps ∧ slot.width ≤ plain.length)
      (slot.layOut (Slot.textual shown)) (slot.layOut (Slot.textual plain)) where
  untinted_append := by
    rintro ⟨hk, hwidth⟩ rest
    rw [Slot.layOut_of_le (Nat.le_trans hwidth hlength), Slot.layOut_of_le hwidth,
      h.untinted_append hk]
  weigh_le := by
    have hle := h.weigh_le
    rw [Slot.weigh_layOut, Slot.weigh_layOut]
    omega
  weigh_lt := by
    intro hnot
    rw [Slot.weigh_layOut, Slot.weigh_layOut]
    obtain hk | hk := Classical.em keeps
    · have hwidth : ¬slot.width ≤ plain.length := fun hwidth => hnot ⟨hk, hwidth⟩
      have hlonger := hkeeps hk
      have hle := h.weigh_le
      omega
    · have hlt := h.weigh_lt hk
      omega

theorem tinted_take (colour name : Text) (n : Nat) : (tinted colour name).take n =
    (escapeSequence colour).take n ++ (name.take (n - (escapeSequence colour).length) ++
      (escapeSequence ['0']).take (n - (escapeSequence colour).length - name.length)) := by
  simp [tinted, List.take_append, Nat.sub_sub]

theorem weigh_take_name (hname : IsEvenWord name) (n : Nat) :
    weigh (name.take n) = (min n name.length : Nat) := by
  have hweight : ∀ c ∈ name.take n, weight c = 1 :=
    fun c hc => hname.weight_eq c (List.mem_of_mem_take hc)
  rw [weigh_of_forall hweight, List.length_take, Int.mul_one]

/-- The beginning of a name in a colour, against as many characters of the plain name. A sequence
that is cut off weighs less than nothing, and one that is there leaves less room for the name. -/
theorem showsTint_take (hcolour : IsColour colour) (hname : IsEvenWord name) {n : Nat}
    (hn : n ≠ 0) :
    ShowsTint colour
      (n = (escapeSequence colour ++ name).length ∨ (tinted colour name).length ≤ n)
      ((tinted colour name).take n) (name.take n) := by
  have hfree : EscapeFree name := hname.areBare.escapeFree
  have hbegin := weigh_take_escapeSequence hcolour.digits n
  have hzero : AreDigits ['0'] := by decide
  have hend := weigh_take_escapeSequence hzero
    (n - (escapeSequence colour).length - name.length)
  have hlength : (tinted colour name).length =
      (escapeSequence colour).length + name.length + (escapeSequence ['0']).length := by
    rw [tinted, List.length_append, List.length_append]
  have hposition : 0 < (escapeSequence colour).length := by
    simp [escapeSequence]
  have hweigh : weigh ((tinted colour name).take n) =
      weigh ((escapeSequence colour).take n) +
        ((min (n - (escapeSequence colour).length) name.length : Nat) +
          weigh ((escapeSequence ['0']).take
            (n - (escapeSequence colour).length - name.length))) := by
    rw [tinted_take, weigh_append, weigh_append, weigh_take_name hname]
  refine ⟨fun hkeeps rest => ?_, ?_, fun hnot => ?_⟩
  -- Either the sequence that ends the colour is cut off as a whole, or nothing is cut off.
  · rw [List.length_append, hlength] at hkeeps
    rw [List.take_of_length_le (show name.length ≤ n by omega)]
    obtain heq | hle := hkeeps
    · rw [heq, ← List.length_append, tinted, List.take_left, List.append_assoc,
        untinted_sequence hcolour (.inl rfl), untinted_append hfree]
    · rw [List.take_of_length_le (hlength ▸ hle), untinted_tinted hcolour hfree]
  · rw [hweigh, weigh_take_name hname]
    omega
  · rw [List.length_append, hlength] at hnot
    rw [hweigh, weigh_take_name hname]
    omega

/-- A slot shows a name in a colour as it shows the plain name exactly if it keeps the tint. -/
theorem showsTint_name (hcolour : IsColour colour) (hname : IsEvenWord name) (slot : Slot) :
    ShowsTint colour (slot.KeepsTint colour name) (slot.layOut (slot.cut (tinted colour name)))
      (slot.layOut (slot.cut name)) := by
  have hlonger : name.length < (tinted colour name).length := by
    simp [tinted, escapeSequence]
    omega
  rw [Slot.cut_eq_take (Nat.le_refl (tinted colour name).length),
    Slot.cut_eq_take (Nat.le_of_lt hlonger)]
  unfold Slot.KeepsTint
  generalize slot.precision.getD (tinted colour name).length = n
  obtain rfl | hn := Nat.eq_zero_or_pos n
  · refine .same (escapeFree_layOut slot ⟨escapeFree_nil, escapeFree_nil⟩) (.inl rfl)
  · have hshows := showsTint_take hcolour hname (Nat.ne_of_gt hn)
    have hwhole (hkeeps : n = (escapeSequence colour ++ name).length ∨
        (tinted colour name).length ≤ n) : name.length < n := by
      simp only [tinted, escapeSequence, List.length_append, List.length_cons,
        List.length_nil] at hkeeps
      omega
    refine (hshows.layOut ?_ ?_ slot).congr ?_
    · rw [List.length_take, List.length_take]
      omega
    · intro hkeeps
      have hlt := hwhole hkeeps
      rw [List.length_take, List.length_take]
      omega
    · constructor
      · rintro (hzero | ⟨hwidth, hkeeps⟩)
        · omega
        · rw [List.take_of_length_le (Nat.le_of_lt (hwhole hkeeps))]
          exact ⟨hkeeps, hwidth⟩
      · rintro ⟨hkeeps, hwidth⟩
        rw [List.take_of_length_le (Nat.le_of_lt (hwhole hkeeps))] at hwidth
        exact .inr ⟨hwidth, hkeeps⟩

/-- A quoted text in a slot, against one with a backslash right behind its quote: they look alike
exactly if the slot cuts them within the quote. -/
theorem showsTint_backslash {marked bare : Text} (hmarked : marked.length ≤ 90)
    (hlength : bare.length ≤ marked.length + 1) (hbare : IsHeavy bare) (slot : Slot) :
    ShowsTint colour (slot.CutsWithin [Text.singleQuote])
      (slot.layOut (slot.cut (Text.singleQuote :: '\\' :: marked)))
      (slot.layOut (slot.cut (Text.singleQuote :: bare))) := by
  have hfree : EscapeFree (Text.singleQuote :: bare) :=
    escapeFree_cons.2 ⟨by decide, hbare.escapeFree⟩
  have hlonger : (Text.singleQuote :: bare).length ≤
      (Text.singleQuote :: '\\' :: marked).length := by
    simp only [List.length_cons]
    omega
  rw [Slot.cut_eq_take (Nat.le_refl (Text.singleQuote :: '\\' :: marked).length),
    Slot.cut_eq_take hlonger]
  have hcuts : slot.CutsWithin [Text.singleQuote] ↔
      slot.precision.getD (Text.singleQuote :: '\\' :: marked).length ≤ 1 := by
    cases hprecision : slot.precision <;> simp [Slot.CutsWithin, hprecision]
  generalize slot.precision.getD (Text.singleQuote :: '\\' :: marked).length = n at hcuts ⊢
  obtain hle | hlt := Nat.lt_or_ge 1 n
  · obtain ⟨k, rfl⟩ : ∃ k, n = k + 2 := ⟨n - 2, by omega⟩
    -- Behind the quote one of the two has the backslash, which nothing behind it makes up for.
    have hlt : weigh ((Text.singleQuote :: '\\' :: marked).take (k + 2)) <
        weigh ((Text.singleQuote :: bare).take (k + 2)) := by
      have hbackslash : weight '\\' = -100 := by decide
      have hlight := weigh_le_length (marked.take k)
      have hheavy : 0 ≤ weigh (bare.take (k + 1)) :=
        weigh_nonneg fun c hc => hbare c (List.mem_of_mem_take hc)
      rw [List.length_take] at hlight
      rw [List.take_succ_cons, List.take_succ_cons, List.take_succ_cons, weigh_cons, weigh_cons,
        weigh_cons, hbackslash]
      omega
    have hshows : ShowsTint colour False ((Text.singleQuote :: '\\' :: marked).take (k + 2))
        ((Text.singleQuote :: bare).take (k + 2)) :=
      ⟨False.elim, Int.le_of_lt hlt, fun _ => hlt⟩
    refine (hshows.layOut ?_ False.elim slot).congr ?_
    · rw [List.length_take, List.length_take]
      omega
    · simp only [false_and, iff_false]
      exact fun h => absurd (hcuts.1 h) (by omega)
  · have hsame : (Text.singleQuote :: '\\' :: marked).take n =
        (Text.singleQuote :: bare).take n := by
      obtain rfl | rfl : n = 0 ∨ n = 1 := by omega
      · rfl
      · rfl
    rw [hsame]
    exact .same (escapeFree_layOut slot ⟨escapeFree_nil, hfree.take n⟩) (hcuts.2 hlt)

end Slots

end Phrasebook.Log
