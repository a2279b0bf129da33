import Phrasebook.Log.Formatter
import Phrasebook.Proofs.Text.UpperCase

/-!
# Texts without escape characters

A directive writes an escape character only if the text of its value has one, or if the value is its
code point. Numbers never have one in any notation, nor does quoted text, where it is written by its
code point. So a line is free of it if its layout and the fields of its record are.
-/

namespace Phrasebook.Log

/-- A text without the character that begins an escape sequence. -/
def EscapeFree (s : Text) : Prop :=
  escapeChar ∉ s

instance (s : Text) : Decidable (EscapeFree s) :=
  inferInstanceAs (Decidable (_ ∉ _))

section Texts

variable {c : Char} {s t : Text}

@[simp] theorem escapeFree_nil : EscapeFree [] := List.not_mem_nil

@[simp] theorem escapeFree_cons : EscapeFree (c :: s) ↔ escapeChar ≠ c ∧ EscapeFree s := by
  simp [EscapeFree]

@[simp] theorem escapeFree_append : EscapeFree (s ++ t) ↔ EscapeFree s ∧ EscapeFree t := by
  simp [EscapeFree]

theorem EscapeFree.of_subset (h : EscapeFree t) (hsubset : s ⊆ t) : EscapeFree s :=
  fun hmem => h (hsubset hmem)

theorem EscapeFree.take (h : EscapeFree s) (n : Nat) : EscapeFree (s.take n) :=
  h.of_subset (List.take_subset n s)

theorem EscapeFree.drop (h : EscapeFree s) (n : Nat) : EscapeFree (s.drop n) :=
  h.of_subset (List.drop_subset n s)

theorem EscapeFree.reverse (h : EscapeFree s) : EscapeFree s.reverse :=
  h.of_subset fun _ hmem => List.mem_reverse.1 hmem

theorem EscapeFree.takeWhile (h : EscapeFree s) (p : Char → Bool) : EscapeFree (s.takeWhile p) :=
  h.of_subset (List.takeWhile_subset p)

theorem EscapeFree.dropWhile (h : EscapeFree s) (p : Char → Bool) : EscapeFree (s.dropWhile p) :=
  h.of_subset (List.dropWhile_subset p)

theorem escapeFree_fill (hc : escapeChar ≠ c) (n : Nat) : EscapeFree (Text.fill n c) :=
  fun hmem => hc (List.eq_of_mem_replicate hmem)

theorem escapeFree_flatMap {α : Type} {items : List α} {f : α → Text}
    (h : ∀ item ∈ items, EscapeFree (f item)) : EscapeFree (items.flatMap f) := by
  intro hmem
  obtain ⟨item, hitem, hmem⟩ := List.mem_flatMap.1 hmem
  exact h item hitem hmem

theorem escapeFree_map {f : Char → Char} (h : ∀ c ∈ s, escapeChar ≠ f c) :
    EscapeFree (s.map f) := by
  intro hmem
  obtain ⟨c, hc, heq⟩ := List.mem_map.1 hmem
  exact h c hc heq.symm

theorem isBeforeDigits_escapeChar : Text.IsBeforeDigits escapeChar := by
  decide

end Texts

/-! ## Digits -/

/-- The characters that stand for digits, and the one that stands for what is no digit. -/
def digitChars : Text := "0123456789abcdef*".toList

theorem digitChar_mem_digitChars (n : Nat) : Nat.digitChar n ∈ digitChars := by
  obtain hlt | hle := Nat.lt_or_ge n 16
  · exact (by decide : ∀ n < 16, Nat.digitChar n ∈ digitChars) n hlt
  · rw [Nat.digitChar_eq_star.2 hle]
    decide

theorem exists_digitChar_of_mem_toDigits {base n : Nat} (hbase : 1 < base) {c : Char}
    (h : c ∈ Nat.toDigits base n) : ∃ d, c = Nat.digitChar d := by
  induction n using Nat.strongRecOn with
  | ind n ih =>
      rw [Nat.toDigits_eq_if hbase] at h
      split at h
      · exact ⟨n, List.mem_singleton.1 h⟩
      · rename_i hle
        obtain h | h := List.mem_append.1 h
        · exact ih _ (Nat.div_lt_self (by omega) hbase) h
        · exact ⟨n % base, List.mem_singleton.1 h⟩

/-- The digits of a number in the style of a conversion. -/
theorem escapeFree_digits {base : Nat} (hbase : 1 < base) {style : Char → Char}
    (hstyle : EscapeFree (digitChars.map style)) (n : Nat) :
    EscapeFree ((Nat.toDigits base n).map style) := by
  refine escapeFree_map fun c hc heq => ?_
  obtain ⟨d, rfl⟩ := exists_digitChar_of_mem_toDigits hbase hc
  exact hstyle (List.mem_map.2 ⟨_, digitChar_mem_digitChars d, heq.symm⟩)

theorem escapeFree_toDigits {base : Nat} (hbase : 1 < base) (n : Nat) :
    EscapeFree (Nat.toDigits base n) := by
  have hstyle : EscapeFree (digitChars.map id) := by decide
  have h := escapeFree_digits hbase hstyle n
  rwa [List.map_id] at h

theorem escapeFree_ofNat (n : Nat) : EscapeFree (Text.ofNat n) :=
  escapeFree_toDigits (by decide) n

theorem escapeFree_ofInt (n : Int) : EscapeFree (Text.ofInt n) := by
  cases n with
  | ofNat n => exact escapeFree_ofNat n
  | negSucc n => exact escapeFree_cons.2 ⟨by decide, escapeFree_ofNat (n + 1)⟩

theorem escapeFree_padded (width n : Nat) : EscapeFree (Text.padded width n) :=
  escapeFree_append.2 ⟨escapeFree_fill (by decide) _, escapeFree_ofNat n⟩

theorem escapeFree_hex (width n : Nat) : EscapeFree (Text.hex width n) :=
  escapeFree_append.2 ⟨escapeFree_fill (by decide) _, escapeFree_toDigits (by decide) n⟩

/-! ## Quoted text and whole numbers -/

theorem escapeFree_byCodePoint (c : Char) : EscapeFree (Text.byCodePoint c) := by
  unfold Text.byCodePoint
  split_ifs <;> exact escapeFree_append.2 ⟨by decide, escapeFree_hex _ _⟩

theorem escapeFree_escape? {quote c : Char} {escaped : Text} (hquote : escapeChar ≠ quote)
    (h : Text.escape? quote c = some escaped) : EscapeFree escaped := by
  unfold Text.escape? at h
  split_ifs at h with hself
  all_goals cases h
  · obtain rfl | rfl := hself
    · decide
    · exact escapeFree_cons.2 ⟨by decide, escapeFree_cons.2 ⟨hquote, escapeFree_nil⟩⟩
  all_goals decide

theorem isPrintable_escapeChar : Text.isPrintable escapeChar = false := by
  decide +kernel

theorem escapeFree_quotedChar {quote : Char} (hquote : escapeChar ≠ quote) (c : Char) :
    EscapeFree (Text.quotedChar quote c) := by
  unfold Text.quotedChar
  split
  · rename_i escaped hescaped
    exact escapeFree_escape? hquote hescaped
  · split_ifs with hprintable
    · refine escapeFree_cons.2 ⟨?_, escapeFree_nil⟩
      rintro rfl
      rw [isPrintable_escapeChar] at hprintable
      cases hprintable
    · exact escapeFree_byCodePoint c

/-- Quoted text has no escape character, whatever is quoted. -/
theorem escapeFree_quoted (s : Text) : EscapeFree (Text.quoted s) := by
  have hquote (single double : Bool) : escapeChar ≠ Text.quoteFor single double := by
    revert single double
    decide
  simp only [Text.quoted, escapeFree_append, escapeFree_cons, escapeFree_nil, and_true]
  exact ⟨⟨hquote _ _, escapeFree_flatMap fun c _ => escapeFree_quotedChar (hquote _ _) c⟩,
    hquote _ _⟩

theorem escapeFree_inAscii {s : Text} (h : EscapeFree s) : EscapeFree (Text.inAscii s) := by
  refine escapeFree_flatMap fun c hc => ?_
  split_ifs
  · exact escapeFree_cons.2 ⟨fun heq => h (heq ▸ hc), escapeFree_nil⟩
  · exact escapeFree_byCodePoint c

/-! ## Numbers in their notations -/

theorem escapeFree_fraction (opened : Bool) {digits : Text} (h : EscapeFree digits) :
    EscapeFree (Notation.fraction opened digits) := by
  unfold Notation.fraction
  split_ifs
  · exact escapeFree_nil
  · exact escapeFree_cons.2 ⟨by decide, h⟩

theorem escapeFree_trimmed {digits : Text} (h : EscapeFree digits) :
    EscapeFree (Notation.trimmed digits) :=
  (h.reverse.dropWhile _).reverse

theorem escapeFree_completed (count : Nat) {digits : Text} (h : EscapeFree digits) :
    EscapeFree (Notation.completed count digits) :=
  escapeFree_append.2 ⟨h, escapeFree_fill (by decide) _⟩

theorem escapeFree_leading (count num den : Nat) :
    EscapeFree (Notation.leading count num den).1 := by
  unfold Notation.leading
  split_ifs
  · exact escapeFree_cons.2 ⟨by decide, escapeFree_nil⟩
  · simp only
    split_ifs
    · exact escapeFree_cons.2 ⟨by decide, escapeFree_nil⟩
    · exact escapeFree_ofNat _

theorem escapeFree_scientific (opened : Bool) {digits : Text} (h : EscapeFree digits)
    (power : Int) : EscapeFree (Notation.scientific opened digits power) := by
  have hmark : EscapeFree ['e', if power < 0 then '-' else '+'] := by
    split_ifs <;> decide
  simp only [Notation.scientific, escapeFree_append]
  exact ⟨⟨⟨h.take 1, escapeFree_fraction opened (h.drop 1)⟩, hmark⟩, escapeFree_padded 2 _⟩

theorem escapeFree_fixed (opened : Bool) (places num den : Nat) :
    EscapeFree (Notation.fixed opened places num den) := by
  have hdigits := escapeFree_padded (min places Notation.enough + 1)
    (Binary64.roundDiv (num * Numeral.powerOfTen (min places Notation.enough)) den)
  exact escapeFree_append.2 ⟨hdigits.take _,
    escapeFree_fraction opened (escapeFree_completed places (hdigits.drop _))⟩

theorem escapeFree_exponential (opened : Bool) (places num den : Nat) :
    EscapeFree (Slot.exponential opened places num den) :=
  escapeFree_scientific opened (escapeFree_completed _ (escapeFree_leading _ num den)) _

theorem escapeFree_general (opened : Bool) (count num den : Nat) :
    EscapeFree (Notation.general opened count num den) := by
  have hleading := escapeFree_leading (max 1 count) num den
  unfold Notation.general
  simp only
  have hdigits : EscapeFree
      (if opened then Notation.completed (max 1 count) (Notation.leading (max 1 count) num den).1
        else Notation.trimmed (Notation.leading (max 1 count) num den).1) := by
    split_ifs
    · exact escapeFree_completed _ hleading
    · exact escapeFree_trimmed hleading
  generalize (if opened then _ else _ : Text) = digits at hdigits ⊢
  split_ifs
  · exact escapeFree_scientific opened hdigits _
  · exact escapeFree_append.2
      ⟨escapeFree_append.2 ⟨by decide, escapeFree_fill (by decide) _⟩, hdigits⟩
  · have h := escapeFree_completed
      ((Notation.leading (max 1 count) num den).2.toNat + 1) hdigits
    exact escapeFree_append.2 ⟨h.take _, escapeFree_fraction opened (h.drop _)⟩

/-! ## Converted values -/

section Conversions

variable {slot : Slot} {conversion : Char} {position : Nat} {value : Value} {converted : Converted}

/-- A value whose text has no escape character, by itself, inside another value or as a code
point. -/
structure IsEscapeFree (value : Value) : Prop where
  plain : EscapeFree value.plain
  literal : EscapeFree value.literal
  code : ∀ n : Int, value.integer? = some n → n ≠ 27

/-- A converted value without escape characters. -/
def Converted.IsEscapeFree (c : Converted) : Prop :=
  EscapeFree c.lead ∧ EscapeFree c.body

theorem isEscapeFree_cut (slot : Slot) {s : Text} (h : EscapeFree s) :
    (slot.cut s).IsEscapeFree := by
  cases hprecision : slot.precision with
  | none =>
      rw [Slot.cut, hprecision]
      exact ⟨escapeFree_nil, h⟩
  | some n =>
      rw [Slot.cut, hprecision]
      exact ⟨escapeFree_nil, h.take n⟩

theorem escapeFree_sign (slot : Slot) (negative : Bool) : EscapeFree (slot.sign negative) := by
  unfold Slot.sign
  split_ifs <;> decide

theorem isEscapeFree_integer {n : Int} {mark digits : Text} (hmark : EscapeFree mark)
    (hdigits : EscapeFree digits) (h : slot.integer n mark digits = .ok converted) :
    converted.IsEscapeFree := by
  unfold Slot.integer at h
  simp only at h
  split_ifs at h
  cases h
  exact ⟨escapeFree_append.2 ⟨escapeFree_sign slot _, hmark⟩,
    escapeFree_append.2 ⟨escapeFree_fill (by decide) _, hdigits⟩⟩

theorem isEscapeFree_numeral {n : Int} (h : slot.numeral n = .ok converted) :
    converted.IsEscapeFree := by
  unfold Slot.numeral at h
  simp only at h
  split at h
  · cases h
  · rename_i written hwritten
    split_ifs at h
    cases h
    exact isEscapeFree_integer escapeFree_nil (escapeFree_ofNat _) hwritten

theorem isEscapeFree_decimal (h : slot.decimal conversion value = .ok converted) :
    converted.IsEscapeFree := by
  unfold Slot.decimal at h
  split at h
  · cases h
  · cases h
  · exact isEscapeFree_numeral h
  · split at h
    · exact isEscapeFree_numeral h
    · cases h

theorem isEscapeFree_based {base : Nat} {mark : Text} {style : Char → Char} (hbase : 1 < base)
    (hmark : EscapeFree mark) (hstyle : EscapeFree (digitChars.map style))
    (h : slot.based conversion base mark style value = .ok converted) :
    converted.IsEscapeFree := by
  unfold Slot.based at h
  split at h
  · refine isEscapeFree_integer ?_ (escapeFree_digits hbase hstyle _) h
    split_ifs
    · exact hmark
    · exact escapeFree_nil
  · cases h

/-- No other character has the escape character as its capital form. -/
theorem escapeChar_ne_toUpper {c : Char} (h : escapeChar ≠ c) : escapeChar ≠ c.toUpper := by
  unfold Char.toUpper
  split_ifs with hlower
  · intro heq
    have hval : (27 : UInt32) = c.val + ('A'.val - 'a'.val) := congrArg Char.val heq
    rw [show (27 : UInt32) = 59 + ('A'.val - 'a'.val) from rfl] at hval
    have hlow := hlower.1
    rw [← (UInt32.add_left_inj _).1 hval] at hlow
    exact absurd hlow (by decide)
  · exact h

/-- A float in a notation without escape characters, in letters that are no escape characters. -/
theorem isEscapeFree_float {style : Char → Char} {shape : Slot.Shape}
    (hstyle : ∀ c, escapeChar ≠ c → escapeChar ≠ style c)
    (hshape : ∀ opened places num den, EscapeFree (shape opened places num den)) (x : Binary64) :
    (slot.float style shape x).IsEscapeFree := by
  have hstyled {s : Text} (h : EscapeFree s) : EscapeFree (s.map style) :=
    escapeFree_map fun c hc => hstyle c fun heq => h (heq ▸ hc)
  cases x with
  | nan => exact ⟨escapeFree_sign slot false, hstyled (by decide)⟩
  | infinity negative => exact ⟨escapeFree_sign slot negative, hstyled (by decide)⟩
  | finite negative mantissa exponent =>
      exact ⟨escapeFree_sign slot negative, hstyled (hshape _ _ _ _)⟩

theorem isEscapeFree_real {style : Char → Char} {shape : Slot.Shape}
    (hstyle : ∀ c, escapeChar ≠ c → escapeChar ≠ style c)
    (hshape : ∀ opened places num den, EscapeFree (shape opened places num den))
    (h : slot.real style shape value = .ok converted) : converted.IsEscapeFree := by
  unfold Slot.real at h
  split at h
  · cases h
    exact isEscapeFree_float hstyle hshape _
  · split at h
    · cases h
    · split at h
      · cases h
      · cases h
        exact isEscapeFree_float hstyle hshape _

theorem isEscapeFree_character (hvalue : IsEscapeFree value)
    (h : Slot.character value = .ok converted) : converted.IsEscapeFree := by
  unfold Slot.character at h
  split at h
  · cases h
    exact ⟨escapeFree_nil, hvalue.plain⟩
  · split at h
    · cases h
    · rename_i n hn
      split_ifs at h with hrange
      cases h
      refine ⟨escapeFree_nil, escapeFree_cons.2 ⟨fun heq => ?_, escapeFree_nil⟩⟩
      have hcode : n.toNat = 27 := Text.eq_toNat_of_ofNat_eq isBeforeDigits_escapeChar heq.symm
      exact hvalue.code n hn (by omega)

theorem isEscapeFree_written {text : Text} (htext : EscapeFree text)
    (h : slot.written value text = .ok converted) : converted.IsEscapeFree := by
  unfold Slot.written at h
  split_ifs at h
  cases h
  exact isEscapeFree_cut slot htext

/-- Each conversion keeps escape characters out. -/
theorem isEscapeFree_convert (hvalue : IsEscapeFree value)
    (h : slot.convert conversion position value = .ok converted) : converted.IsEscapeFree := by
  have hcapitals : EscapeFree (digitChars.map Char.toUpper) := by decide
  have hplain (c : Char) (hc : escapeChar ≠ c) : escapeChar ≠ id c := hc
  have hupper (c : Char) (hc : escapeChar ≠ c) : escapeChar ≠ c.toUpper := escapeChar_ne_toUpper hc
  unfold Slot.convert at h
  split at h
  · exact isEscapeFree_written hvalue.plain h
  · exact isEscapeFree_written hvalue.literal h
  · exact isEscapeFree_written (escapeFree_inAscii hvalue.literal) h
  iterate 3 exact isEscapeFree_decimal h
  iterate 2 exact isEscapeFree_based (by decide) (by decide) (by decide) h
  · exact isEscapeFree_based (by decide) (by decide) hcapitals h
  · exact isEscapeFree_real hplain escapeFree_exponential h
  · exact isEscapeFree_real hupper escapeFree_exponential h
  · exact isEscapeFree_real hplain escapeFree_fixed h
  · exact isEscapeFree_real hupper escapeFree_fixed h
  · exact isEscapeFree_real hplain escapeFree_general h
  · exact isEscapeFree_real hupper escapeFree_general h
  · exact isEscapeFree_character hvalue h
  · cases h

theorem escapeFree_layOut (slot : Slot) (h : converted.IsEscapeFree) :
    EscapeFree (slot.layOut converted) := by
  obtain ⟨hlead, hbody⟩ := h
  have hfill (c : Char) (hc : escapeChar ≠ c) : EscapeFree (Text.fill _ c) :=
    escapeFree_fill hc (slot.width - (converted.lead.length + converted.body.length))
  unfold Slot.layOut
  simp only
  split_ifs <;> simp only [escapeFree_append]
  · exact ⟨⟨hlead, hbody⟩, hfill ' ' (by decide)⟩
  · exact ⟨⟨hlead, hfill '0' (by decide)⟩, hbody⟩
  · exact ⟨⟨hfill ' ' (by decide), hlead⟩, hbody⟩

theorem exists_of_bind_eq_ok {ε α β : Type} {x : Except ε α} {f : α → Except ε β} {b : β}
    (h : (x >>= f) = .ok b) : ∃ a, x = .ok a ∧ f a = .ok b := by
  cases x with
  | error e => cases h
  | ok a => exact ⟨a, rfl, h⟩

theorem use_cases {kind : SizeKind} {size : Size} {value left : Option Value}
    (h : size.use kind value = .ok left) : left = value ∨ left = none := by
  unfold Size.use at h
  split at h
  · exact .inl (Except.ok.inj h).symm
  · split_ifs at h
    exact .inl (Except.ok.inj h).symm
  · cases h
  · split at h
    · cases h
    · split_ifs at h
      exact .inr (Except.ok.inj h).symm

/-- A directive that is filled has converted its value and laid it out. -/
theorem fill_eq_ok {d : Directive} {value : Option Value} {text : Text}
    (h : d.fill value = .ok text) : ∃ v conversion converted, value = some v ∧
      d.slot.convert conversion d.position v = .ok converted ∧
      text = d.slot.layOut converted := by
  unfold Directive.fill at h
  obtain ⟨afterWidth, hwidth, h⟩ := exists_of_bind_eq_ok h
  obtain ⟨left, hprecision, h⟩ := exists_of_bind_eq_ok h
  split at h
  · cases h
  · cases h
  · rename_i conversion v hconversion
    obtain ⟨converted, hconverted, h⟩ := exists_of_bind_eq_ok h
    split_ifs at h
    cases h
    refine ⟨v, conversion, converted, ?_, hconverted, rfl⟩
    obtain heq | heq := use_cases hprecision
    · obtain heq' | heq' := use_cases hwidth
      · rw [← heq', ← heq]
      · cases heq.trans heq'
    · cases heq

/-- A directive puts no escape character into the text of its value. -/
theorem escapeFree_of_fill {d : Directive} {value : Option Value} {text : Text}
    (hvalue : ∀ v, value = some v → IsEscapeFree v) (h : d.fill value = .ok text) :
    EscapeFree text := by
  obtain ⟨v, conversion, converted, hv, hconverted, rfl⟩ := fill_eq_ok h
  exact escapeFree_layOut d.slot (isEscapeFree_convert (hvalue v hv) hconverted)

end Conversions

end Phrasebook.Log
