import Phrasebook.Text.Utf8

/-!
# Texts as bytes and back

The bytes of a text are well formed, and they decode to the text. A character takes one to four
bytes by its size; the first of them gives away how many there are, and the others carry six bits
each. No character is a surrogate, which is what keeps the second byte in its narrower range.
-/

namespace Phrasebook.Text.Utf8

variable {a b c d : UInt8} {n : Nat}

/-! ## Bytes by their values -/

theorem toNat_byte (h : n < 256) : (UInt8.ofNat n).toNat = n := by
  simp [Nat.mod_eq_of_lt h]

theorem width?_eq (a : UInt8) : width? a =
    if a.toNat < 0x80 then some 1
    else if a.toNat < 0xC2 then none
    else if a.toNat < 0xE0 then some 2
    else if a.toNat < 0xF0 then some 3
    else if a.toNat < 0xF5 then some 4
    else none := by
  simp [width?, UInt8.lt_iff_toNat_lt]

theorem isContinuation_iff : isContinuation b = true ↔ 0x80 ≤ b.toNat ∧ b.toNat ≤ 0xBF := by
  simp [isContinuation, UInt8.le_iff_toNat_le]

theorem isSecond_iff : isSecond a b = true ↔
    (0x80 ≤ b.toNat ∧ b.toNat ≤ 0xBF) ∧ (a.toNat = 0xE0 → 0xA0 ≤ b.toNat) ∧
      (a.toNat = 0xED → b.toNat ≤ 0x9F) ∧ (a.toNat = 0xF0 → 0x90 ≤ b.toNat) ∧
      (a.toNat = 0xF4 → b.toNat ≤ 0x8F) := by
  simp only [isSecond, isContinuation, UInt8.le_iff_toNat_le, ← UInt8.toNat_inj]
  grind

/-! ## Sequences by their widths -/

theorem decodeFrom_one (h : width? a = some 1) (position : Nat) (rest : List UInt8) :
    decodeFrom position (a :: rest) =
      (decodeFrom (position + 1) rest).map (Char.ofNat a.toNat :: ·) := by
  rw [decodeFrom.eq_def]
  simp [h]

theorem decodeFrom_two (h : width? a = some 2) (hb : isSecond a b = true) (position : Nat)
    (rest : List UInt8) : decodeFrom position (a :: b :: rest) =
      (decodeFrom (position + 2) rest).map (Char.ofNat (a.toNat % 32 * 64 + low b) :: ·) := by
  rw [decodeFrom.eq_def]
  simp [h, hb]

theorem decodeFrom_three (h : width? a = some 3) (hb : isSecond a b = true)
    (hc : isContinuation c = true) (position : Nat) (rest : List UInt8) :
    decodeFrom position (a :: b :: c :: rest) = (decodeFrom (position + 3) rest).map
      (Char.ofNat (a.toNat % 16 * 4096 + low b * 64 + low c) :: ·) := by
  rw [decodeFrom.eq_def]
  simp [h, hb, hc]

theorem decodeFrom_four (h : width? a = some 4) (hb : isSecond a b = true)
    (hc : isContinuation c = true) (hd : isContinuation d = true) (position : Nat)
    (rest : List UInt8) : decodeFrom position (a :: b :: c :: d :: rest) =
      (decodeFrom (position + 4) rest).map
        (Char.ofNat (a.toNat % 8 * 262144 + low b * 4096 + low c * 64 + low d) :: ·) := by
  rw [decodeFrom.eq_def]
  simp [h, hb, hc, hd]

/-! ## Characters -/

/-- The bytes behind the first one of a character. -/
def continuation (n : Nat) : UInt8 :=
  UInt8.ofNat (0x80 + n % 64)

theorem toNat_continuation (n : Nat) : (continuation n).toNat = 0x80 + n % 64 :=
  toNat_byte (by omega)

theorem isContinuation_continuation (n : Nat) : isContinuation (continuation n) = true := by
  rw [isContinuation_iff, toNat_continuation]
  omega

theorem low_continuation (n : Nat) : low (continuation n) = n % 64 := by
  rw [low, toNat_continuation]
  omega

theorem encodeChar_eq (c : Char) : encodeChar c =
    if c.toNat < 0x80 then [UInt8.ofNat c.toNat]
    else if c.toNat < 0x800 then [UInt8.ofNat (0xC0 + c.toNat / 64), continuation c.toNat]
    else if c.toNat < 0x10000 then
      [UInt8.ofNat (0xE0 + c.toNat / 4096), continuation (c.toNat / 64), continuation c.toNat]
    else [UInt8.ofNat (0xF0 + c.toNat / 262144), continuation (c.toNat / 4096),
      continuation (c.toNat / 64), continuation c.toNat] := by
  simp [encodeChar, continuation, Nat.shiftRight_eq_div_pow]

theorem decodeFrom_oneByte (h : n < 0x80) (position : Nat) (rest : List UInt8) :
    decodeFrom position (UInt8.ofNat n :: rest) =
      (decodeFrom (position + 1) rest).map (Char.ofNat n :: ·) := by
  have ha : (UInt8.ofNat n).toNat = n := toNat_byte (by omega)
  have hwidth : width? (UInt8.ofNat n) = some 1 := by
    rw [width?_eq, ha, if_pos h]
  rw [decodeFrom_one hwidth, ha]

theorem decodeFrom_twoBytes (hlow : 0x80 ≤ n) (hhigh : n < 0x800) (position : Nat)
    (rest : List UInt8) :
    decodeFrom position (UInt8.ofNat (0xC0 + n / 64) :: continuation n :: rest) =
      (decodeFrom (position + 2) rest).map (Char.ofNat n :: ·) := by
  have ha : (UInt8.ofNat (0xC0 + n / 64)).toNat = 0xC0 + n / 64 := toNat_byte (by omega)
  have hwidth : width? (UInt8.ofNat (0xC0 + n / 64)) = some 2 := by
    rw [width?_eq, ha]
    grind
  have hsecond : isSecond (UInt8.ofNat (0xC0 + n / 64)) (continuation n) = true := by
    rw [isSecond_iff, ha, toNat_continuation]
    omega
  have hvalue : (0xC0 + n / 64) % 32 * 64 + n % 64 = n := by omega
  rw [decodeFrom_two hwidth hsecond, ha, low_continuation, hvalue]

/-- Three bytes stand for what fits into them and is no surrogate. -/
theorem decodeFrom_threeBytes (hlow : 0x800 ≤ n) (hhigh : n < 0x10000)
    (hvalid : n < 0xD800 ∨ 0xDFFF < n) (position : Nat) (rest : List UInt8) :
    decodeFrom position (UInt8.ofNat (0xE0 + n / 4096) :: continuation (n / 64) ::
        continuation n :: rest) =
      (decodeFrom (position + 3) rest).map (Char.ofNat n :: ·) := by
  have ha : (UInt8.ofNat (0xE0 + n / 4096)).toNat = 0xE0 + n / 4096 := toNat_byte (by omega)
  have hwidth : width? (UInt8.ofNat (0xE0 + n / 4096)) = some 3 := by
    rw [width?_eq, ha]
    grind
  have hsecond : isSecond (UInt8.ofNat (0xE0 + n / 4096)) (continuation (n / 64)) = true := by
    rw [isSecond_iff, ha, toNat_continuation]
    omega
  have hvalue : (0xE0 + n / 4096) % 16 * 4096 + n / 64 % 64 * 64 + n % 64 = n := by omega
  rw [decodeFrom_three hwidth hsecond (isContinuation_continuation n), ha, low_continuation,
    low_continuation, hvalue]

theorem decodeFrom_fourBytes (hlow : 0x10000 ≤ n) (hhigh : n < 0x110000) (position : Nat)
    (rest : List UInt8) :
    decodeFrom position (UInt8.ofNat (0xF0 + n / 262144) :: continuation (n / 4096) ::
        continuation (n / 64) :: continuation n :: rest) =
      (decodeFrom (position + 4) rest).map (Char.ofNat n :: ·) := by
  have ha : (UInt8.ofNat (0xF0 + n / 262144)).toNat = 0xF0 + n / 262144 := toNat_byte (by omega)
  have hwidth : width? (UInt8.ofNat (0xF0 + n / 262144)) = some 4 := by
    rw [width?_eq, ha]
    grind
  have hsecond : isSecond (UInt8.ofNat (0xF0 + n / 262144)) (continuation (n / 4096)) = true := by
    rw [isSecond_iff, ha, toNat_continuation]
    omega
  have hvalue : (0xF0 + n / 262144) % 8 * 262144 + n / 4096 % 64 * 4096 + n / 64 % 64 * 64 +
      n % 64 = n := by omega
  rw [decodeFrom_four hwidth hsecond (isContinuation_continuation _)
    (isContinuation_continuation n), ha, low_continuation, low_continuation, low_continuation,
    hvalue]

theorem toNat_valid (c : Char) : c.toNat < 0xD800 ∨ 0xDFFF < c.toNat ∧ c.toNat < 0x110000 :=
  c.valid

/-- The bytes of a character are read as the character, whatever follows them. -/
theorem decodeFrom_encodeChar (position : Nat) (c : Char) (rest : List UInt8) :
    ∃ next, decodeFrom position (encodeChar c ++ rest) = (decodeFrom next rest).map (c :: ·) := by
  have hvalid := toNat_valid c
  have hc : Char.ofNat c.toNat = c := Char.ofNat_toNat c
  rw [encodeChar_eq]
  split
  · rename_i hone
    exact ⟨_, (decodeFrom_oneByte hone position rest).trans (by rw [hc])⟩
  · rename_i hone
    split
    · rename_i htwo
      exact ⟨_, (decodeFrom_twoBytes (by omega) htwo position rest).trans (by rw [hc])⟩
    · rename_i htwo
      split
      · rename_i hthree
        have hplain : c.toNat < 0xD800 ∨ 0xDFFF < c.toNat := hvalid.imp_right And.left
        exact ⟨_, (decodeFrom_threeBytes (by omega) hthree hplain position rest).trans
          (by rw [hc])⟩
      · rename_i hthree
        exact ⟨_, (decodeFrom_fourBytes (by omega) (by omega) position rest).trans (by rw [hc])⟩

/-! ## Texts -/

theorem decodeFrom_encode (position : Nat) (s : Text) : decodeFrom position (encode s) = .ok s := by
  induction s generalizing position with
  | nil => rfl
  | cons c rest ih =>
      obtain ⟨next, hnext⟩ := decodeFrom_encodeChar position c (encode rest)
      rw [encode, List.flatMap_cons]
      exact hnext.trans (by rw [ih]; rfl)

/-- The bytes of a text decode to the text. -/
theorem decode_encode (s : Text) : decode (encode s) = .ok s :=
  decodeFrom_encode 0 s

end Phrasebook.Text.Utf8
