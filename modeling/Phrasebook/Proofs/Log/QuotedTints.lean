import Phrasebook.Proofs.Log.Tints

/-!
# Names in colours between quotes

A quoted name has its escape characters written out, so that nothing can be deleted. A slot then
shows the name in a colour as it shows the plain one only if it cuts off everything behind the quote
that opens it (`showsTint_quoted`). Inside a longer text the two part behind that quote, and no
deletion brings them together again: what stands there in the plain text is not what an escape
sequence begins with (`Parts.untinted_ne`, `parts_layOut_cut`).
-/

namespace Phrasebook.Log

/-! ## Level names in quotes -/

section Quotes

variable {colour name before behind s t : Text}

theorem inAscii_append (s t : Text) :
    Text.inAscii (s ++ t) = Text.inAscii s ++ Text.inAscii t :=
  List.flatMap_append

theorem inAscii_of_isAscii (h : Text.IsAscii s) : Text.inAscii s = s := by
  induction s with
  | nil => rfl
  | cons c s ih =>
      obtain ⟨hc, hs⟩ := List.forall_mem_cons.1 h
      have hrest : Text.inAscii s = s := ih hs
      rw [Text.inAscii, List.flatMap_cons, if_pos hc]
      exact congrArg (c :: ·) hrest

/-- What stands behind the backslash where a name in a colour is quoted. -/
def markedName (colour name : Text) : Text :=
  ['x', '1', 'b', '['] ++ colour ++ ['m'] ++ name ++
    ['\\', 'x', '1', 'b', '[', '0', 'm', Text.singleQuote]

/-- Between quotes the escape characters of a colour are written by their code points. -/
theorem quoted_tinted (hcolour : AreBare colour) (hname : AreBare name) :
    Text.quoted (tinted colour name) =
      Text.singleQuote :: '\\' :: markedName colour name := by
  have hescape : Text.quotedChar Text.singleQuote escapeChar = "\\x1b".toList := by
    decide +kernel
  have hbare (c : Char) (hc : IsBare c) : Text.quotedChar Text.singleQuote c = [c] :=
    quotedChar_of_isBare hc
  have hquote : Text.singleQuote ∉ tinted colour name := by
    have habsent {s : Text} (h : AreBare s) : Text.singleQuote ∉ s :=
      fun hmem => (h _ hmem).2.2.2 rfl
    simp only [tinted, escapeSequence, List.mem_append, not_or]
    exact ⟨⟨⟨⟨by decide, habsent hcolour⟩, by decide⟩, habsent hname⟩, by decide⟩
  rw [quoted_of_not_mem hquote, tinted, escapeSequence, escapeSequence]
  simp [flatMap_quotedChar_of_areBare hcolour, flatMap_quotedChar_of_areBare hname, hescape,
    hbare '[' (by decide), hbare '0' (by decide), hbare 'm' (by decide), markedName]

theorem isAscii_append (hs : Text.IsAscii s) (ht : Text.IsAscii t) : Text.IsAscii (s ++ t) :=
  List.forall_mem_append.2 ⟨hs, ht⟩

theorem isAscii_markedName (hcolour : Text.IsAscii colour) (hname : Text.IsAscii name) :
    Text.IsAscii (markedName colour name) := by
  have hlead := isAscii_append (s := ['x', '1', 'b', '[']) (by decide) hcolour
  have hopened := isAscii_append (isAscii_append hlead (t := ['m']) (by decide)) hname
  exact isAscii_append hopened (by decide)

/-- What is written for a value between quotes: in ASCII alone, or as it is. -/
def styled (conversion : Char) (s : Text) : Text :=
  if conversion = 'a' then Text.inAscii s else s

/-- What stands before the name of a level where it is quoted, the quote included. -/
def quotedLead (conversion : Char) (before : Text) : Text :=
  styled conversion before ++ [Text.singleQuote]

theorem styled_append (conversion : Char) (s t : Text) :
    styled conversion (s ++ t) = styled conversion s ++ styled conversion t := by
  unfold styled
  split_ifs
  · exact inAscii_append s t
  · rfl

theorem styled_of_isAscii (h : Text.IsAscii s) (conversion : Char) : styled conversion s = s := by
  unfold styled
  split_ifs
  · exact inAscii_of_isAscii h
  · rfl

theorem isAscii_quoted_tinted (hcolour : AreBare colour) (hname : AreBare name) :
    Text.IsAscii (Text.quoted (tinted colour name)) := by
  rw [quoted_tinted hcolour hname]
  exact List.forall_mem_cons.2 ⟨by decide, List.forall_mem_cons.2
    ⟨by decide, isAscii_markedName hcolour.isAscii hname.isAscii⟩⟩

theorem isAscii_quoted (hname : AreBare name) : Text.IsAscii (Text.quoted name) := by
  rw [quoted_of_areBare hname]
  exact isAscii_append (List.forall_mem_cons.2 ⟨by decide, hname.isAscii⟩) (by decide)

/-- A slot shows a quoted name in a colour as it shows the plain one exactly if it cuts off
everything behind the quote that opens it. -/
theorem showsTint_quoted (tint : Text) (hcolour : AreBare colour) (hname : AreBare name)
    (hlength : colour.length + name.length ≤ 70) (conversion : Char) (slot : Slot) :
    ShowsTint tint (slot.CutsWithin [Text.singleQuote])
      (slot.layOut (slot.cut (styled conversion (Text.quoted (tinted colour name)))))
      (slot.layOut (slot.cut (styled conversion (Text.quoted name)))) := by
  rw [styled_of_isAscii (isAscii_quoted_tinted hcolour hname),
    styled_of_isAscii (isAscii_quoted hname), quoted_tinted hcolour hname, quoted_of_areBare hname,
    List.cons_append]
  refine showsTint_backslash ?_ ?_ ?_ slot
  · simp [markedName]
    omega
  · simp [markedName]
    omega
  · exact List.forall_mem_append.2 ⟨hname.isHeavy, List.forall_mem_singleton.2 (by decide)⟩

end Quotes

/-! ## Texts that part -/

/-- Whether two texts part at a character that is no escape character in the first of them. -/
def Parts (shown plain : Text) : Prop :=
  ∃ front c d s t, escapeChar ≠ c ∧ c ≠ d ∧ shown = front ++ c :: s ∧ plain = front ++ d :: t

section Parting

variable {colour shown plain lead marked bare : Text} {c d : Char}

theorem Parts.prepend (h : Parts shown plain) (s : Text) : Parts (s ++ shown) (s ++ plain) := by
  obtain ⟨front, c, d, s', t', hc, hne, rfl, rfl⟩ := h
  exact ⟨s ++ front, c, d, s', t', hc, hne, (List.append_assoc ..).symm,
    (List.append_assoc ..).symm⟩

theorem Parts.append (h : Parts shown plain) (s t : Text) : Parts (shown ++ s) (plain ++ t) := by
  obtain ⟨front, c, d, s', t', hc, hne, rfl, rfl⟩ := h
  exact ⟨front, c, d, s' ++ s, t' ++ t, hc, hne, by simp, by simp⟩

/-- Deleting escape sequences leaves the character at which a text parts from another one. -/
theorem Parts.untinted_ne (h : Parts shown plain) (hplain : EscapeFree plain) :
    untinted colour shown ≠ plain := by
  obtain ⟨front, c, d, s, t, hc, hne, rfl, rfl⟩ := h
  have hfront : EscapeFree front := (escapeFree_append.1 hplain).1
  have hkept : untinted colour (c :: s) = c :: untinted colour s :=
    untinted_append (s := [c]) (escapeFree_cons.2 ⟨hc, escapeFree_nil⟩) s
  rw [untinted_append hfront, hkept]
  exact fun heq => hne (List.cons.inj (List.append_cancel_left heq)).1

/-- Of two texts that part behind a lead the longer one gets fewer blanks before it. So they part in
a slot, which shows more of them than the lead, there or where the blanks end. -/
theorem parts_layOut (slot : Slot) {first : Char} (hfirst : escapeChar ≠ first ∧ first ≠ ' ')
    (hc : escapeChar ≠ c) (hne : c ≠ d) (hlength : bare.length ≤ marked.length) :
    Parts (slot.layOut (Slot.textual (first :: lead ++ c :: marked)))
      (slot.layOut (Slot.textual (first :: lead ++ d :: bare))) := by
  have hparts : Parts (first :: lead ++ c :: marked) (first :: lead ++ d :: bare) :=
    ⟨first :: lead, c, d, marked, bare, hc, hne, rfl, rfl⟩
  simp only [Slot.layOut, Slot.textual, List.nil_append, List.append_nil, Bool.false_and,
    Bool.false_eq_true, if_false, List.length_nil, Nat.zero_add]
  split
  · exact hparts.append _ _
  · have hrooms : slot.width - (first :: lead ++ c :: marked).length ≤
        slot.width - (first :: lead ++ d :: bare).length := by
      simp only [List.length_append, List.length_cons]
      omega
    obtain ⟨more, hmore⟩ := Nat.exists_eq_add_of_le hrooms
    rw [hmore]
    cases more with
    | zero => exact hparts.prepend _
    | succ more =>
        refine ⟨Text.fill (slot.width - (first :: lead ++ c :: marked).length) ' ', first, ' ',
          lead ++ c :: marked, Text.fill more ' ' ++ (first :: lead ++ d :: bare), hfirst.1,
          hfirst.2, rfl, ?_⟩
        rw [Text.fill, Text.fill, Text.fill, List.replicate_add, List.replicate_succ]
        simp

/-- A slot that does not cut two texts within the lead that they have in common shows how they
part. -/
theorem parts_layOut_cut {slot : Slot} {first : Char}
    (hfirst : escapeChar ≠ first ∧ first ≠ ' ') (hc : escapeChar ≠ c) (hne : c ≠ d)
    (hlength : bare.length ≤ marked.length) (hcuts : ¬slot.CutsWithin (first :: lead)) :
    Parts (slot.layOut (slot.cut (first :: lead ++ c :: marked)))
      (slot.layOut (slot.cut (first :: lead ++ d :: bare))) := by
  cases hprecision : slot.precision with
  | none =>
      rw [Slot.cut, Slot.cut, hprecision]
      exact parts_layOut slot hfirst hc hne hlength
  | some n =>
      have hbeyond : (first :: lead).length < n :=
        Nat.lt_of_not_le fun hle => hcuts ⟨n, hprecision, hle⟩
      obtain ⟨k, rfl⟩ := Nat.exists_eq_add_of_lt hbeyond
      rw [Slot.cut, Slot.cut, hprecision]
      simp only [Nat.add_assoc, List.take_length_add_append, List.take_succ_cons]
      refine parts_layOut slot hfirst hc hne ?_
      rw [List.length_take, List.length_take]
      omega

end Parting

end Phrasebook.Log
