import Phrasebook.Locale.Code
import Phrasebook.Proofs.Dict
import Phrasebook.Proofs.Text.LowerCase

/-!
# Long codes

A code is long if it has a row of two word characters, a hyphen and two word characters. A long code
in lower case is its own long form as long as it still has such a row, and lower case destroys no
row but one with a dotted capital I before its last place, as that leaves a combining dot behind. So
the long forms that are rejected are known (`longForm?_again`), and among the ASCII codes there are
none: their long forms depend on nothing but their letters (`longForm?_of_isAscii`).
-/

namespace Phrasebook.Locale

variable {s code r : Text}

/-! ## Rows -/

/-- Two word characters, a hyphen and two word characters. -/
def IsRow (row : Text) : Prop :=
  ∃ a b c d, row = [a, b, '-', c, d] ∧ Text.isWord a = true ∧ Text.isWord b = true ∧
    Text.isWord c = true ∧ Text.isWord d = true

/-- A text with a row somewhere. -/
def HasRow (s : Text) : Prop :=
  ∃ row, IsRow row ∧ row <:+: s

/-- A text with a row somewhere in which a dotted capital I may come last, but nowhere else. -/
def HasSteadyRow (s : Text) : Prop :=
  ∃ row, IsRow row ∧ row <:+: s ∧ 'İ' ∉ row.take 4

theorem startsLong_iff : startsLong s = true ↔ ∃ row, IsRow row ∧ row <+: s := by
  constructor
  · intro h
    rw [startsLong.eq_def] at h
    split at h
    · rename_i a b hyphen c d rest
      simp only [Bool.and_eq_true, beq_iff_eq] at h
      obtain ⟨⟨⟨⟨ha, hb⟩, rfl⟩, hc⟩, hd⟩ := h
      exact ⟨_, ⟨a, b, c, d, rfl, ha, hb, hc, hd⟩, rest, rfl⟩
    · cases h
  · rintro ⟨_, ⟨a, b, c, d, rfl, ha, hb, hc, hd⟩, rest, rfl⟩
    simp [startsLong, ha, hb, hc, hd]

theorem isLong_iff : isLong s = true ↔ HasRow s := by
  induction s with
  | nil =>
      refine iff_of_false Bool.false_ne_true ?_
      rintro ⟨_, ⟨a, b, c, d, rfl, -⟩, hwithin⟩
      cases List.eq_nil_of_infix_nil hwithin
  | cons c rest ih =>
      rw [isLong, Bool.or_eq_true, startsLong_iff, ih]
      simp only [HasRow, List.infix_cons_iff, and_or_left, exists_or]

/-! ## Rows in lower case -/

/-- Whether a text begins with characters of some classes, one after the other. -/
def begins : List (Char → Bool) → Text → Bool
  | [], _ => true
  | _ :: _, [] => false
  | p :: ps, c :: rest => p c && begins ps rest

/-- The classes of a row. -/
def rowClasses : List (Char → Bool) :=
  [Text.isWord, Text.isWord, (· == '-'), Text.isWord, Text.isWord]

theorem startsLong_eq_begins (s : Text) : startsLong s = begins rowClasses s := by
  rcases s with _ | ⟨a, _ | ⟨b, _ | ⟨hyphen, _ | ⟨c, _ | ⟨d, rest⟩⟩⟩⟩⟩ <;>
    simp [startsLong, rowClasses, begins, Bool.and_assoc]

/-- A class that lower case keeps, and that the combining dot is not in. -/
structure KeptByLower (p : Char → Bool) : Prop where
  lowersTo : ∀ {c d}, Text.LowersTo c d → p d = p c
  dotted : p 'i' = p 'İ'
  combiningDot : p Text.combiningDot = false

theorem keptByLower_isWord : KeptByLower Text.isWord where
  lowersTo h := h.isWord_eq
  dotted := by decide +kernel
  combiningDot := by decide +kernel

theorem keptByLower_hyphen : KeptByLower (· == '-') where
  lowersTo h := by simp only [Bool.beq_eq_decide_eq, h.hyphen_iff]
  dotted := rfl
  combiningDot := rfl

theorem keptByLower_of_mem_rowClasses {p : Char → Bool} (h : p ∈ rowClasses) : KeptByLower p := by
  simp only [rowClasses, List.mem_cons, List.not_mem_nil, or_false] at h
  rcases h with rfl | rfl | rfl | rfl | rfl
  · exact keptByLower_isWord
  · exact keptByLower_isWord
  · exact keptByLower_hyphen
  · exact keptByLower_isWord
  · exact keptByLower_isWord

/-- In lower case a text begins with some classes exactly if it does so before and no dotted capital
I stands in front of the last of them. -/
theorem begins_lowerAfter {ps : List (Char → Bool)} (hps : ∀ p ∈ ps, KeptByLower p)
    (seen s : Text) :
    begins ps (Text.lowerAfter seen s) = (begins ps s && !(s.take (ps.length - 1)).contains 'İ') := by
  induction ps generalizing seen s with
  | nil => simp [begins]
  | cons p ps ih =>
      obtain ⟨hp, hps⟩ := List.forall_mem_cons.1 hps
      cases s with
      | nil => rfl
      | cons c rest =>
          obtain ⟨rfl, hlower⟩ | ⟨d, hdotted, hd, hlower⟩ := Text.lowerAfter_cons_cases c seen rest
          · rw [hlower]
            cases ps with
            | nil => simp [begins, hp.dotted]
            | cons q qs =>
                have hq := (List.forall_mem_cons.1 hps).1
                simp [begins, hq.combiningDot]
          · rw [hlower, begins, begins, hp.lowersTo hd, ih hps]
            cases ps with
            | nil => simp [begins]
            | cons q qs => simp [Ne.symm hdotted, Bool.and_assoc]

theorem startsLong_lowerAfter_iff (seen : Text) :
    startsLong (Text.lowerAfter seen s) = true ↔
      ∃ row, IsRow row ∧ row <+: s ∧ 'İ' ∉ row.take 4 := by
  have hlength : rowClasses.length - 1 = 4 := rfl
  rw [startsLong_eq_begins, begins_lowerAfter fun _ => keptByLower_of_mem_rowClasses,
    ← startsLong_eq_begins, hlength, Bool.and_eq_true, startsLong_iff]
  have htake : ∀ {row : Text}, IsRow row → ∀ rest, (row ++ rest).take 4 = row.take 4 := by
    rintro _ ⟨a, b, c, d, rfl, -⟩ rest
    rfl
  constructor
  · rintro ⟨⟨row, hrow, rest, rfl⟩, hdotted⟩
    refine ⟨row, hrow, ⟨rest, rfl⟩, ?_⟩
    rw [← htake hrow rest]
    simpa using hdotted
  · rintro ⟨row, hrow, ⟨rest, rfl⟩, hdotted⟩
    refine ⟨⟨row, hrow, rest, rfl⟩, ?_⟩
    rw [← htake hrow rest] at hdotted
    simpa using hdotted

theorem isLong_lowerAfter_iff (seen : Text) :
    isLong (Text.lowerAfter seen s) = true ↔ HasSteadyRow s := by
  induction s generalizing seen with
  | nil =>
      refine iff_of_false Bool.false_ne_true ?_
      rintro ⟨_, ⟨a, b, c, d, rfl, -⟩, hwithin, -⟩
      cases List.eq_nil_of_infix_nil hwithin
  | cons c rest ih =>
      have hsplit : HasSteadyRow (c :: rest) ↔
          startsLong (Text.lowerAfter seen (c :: rest)) = true ∨ HasSteadyRow rest := by
        rw [startsLong_lowerAfter_iff]
        simp only [HasSteadyRow, List.infix_cons_iff, and_or_left, or_and_right, exists_or]
      rw [hsplit, ← ih (c :: seen)]
      obtain ⟨rfl, hlower⟩ | ⟨d, -, -, hlower⟩ := Text.lowerAfter_cons_cases c seen rest
      · have hdot : startsLong (Text.combiningDot :: Text.lowerAfter ('İ' :: seen) rest) = false := by
          rw [startsLong_eq_begins, rowClasses, begins, keptByLower_isWord.combiningDot,
            Bool.false_and]
        rw [hlower, isLong, isLong, hdot, Bool.false_or, Bool.or_eq_true]
      · rw [hlower, isLong, Bool.or_eq_true]

/-- A text in lower case has a row exactly if one of its rows has no dotted capital I before its
last place. -/
theorem isLong_lower_iff : isLong (Text.lower s) = true ↔ HasSteadyRow s :=
  isLong_lowerAfter_iff []

/-! ## Long forms of long forms -/

theorem hyphen_mem_of_hasRow (h : HasRow s) : '-' ∈ s := by
  obtain ⟨_, ⟨a, b, c, d, rfl, -⟩, hwithin⟩ := h
  exact hwithin.subset (by simp)

/-- The short codes have no hyphen. The long ones have a row and are ASCII texts in lower case. -/
theorem longCodes_entries : ∀ entry ∈ longCodes, '-' ∉ entry.1 ∧ isLong entry.2 = true ∧
    Text.IsAscii entry.2 ∧ Text.asciiLower entry.2 = entry.2 := by
  decide +kernel

/-- A text with a hyphen is no short code. -/
theorem lookup_longCodes_of_hyphen (h : '-' ∈ s) : longCodes.lookup s = none := by
  cases hlookup : longCodes.lookup s with
  | none => rfl
  | some r => exact absurd h (longCodes_entries _ (Dict.mem_of_lookup hlookup)).1

theorem longCode?_lower_of_hasSteadyRow (h : HasSteadyRow code) :
    longCode? (Text.lower code) = some (Text.lower code) := by
  rw [longCode?, if_pos (isLong_lower_iff.2 h), Text.lower_lower]

theorem longCode?_lower_of_hasRow (h : HasRow code) (hunsteady : ¬ HasSteadyRow code) :
    longCode? (Text.lower code) = none := by
  have hhyphen : '-' ∈ Text.lower code := Text.hyphen_mem_lowerAfter [] (hyphen_mem_of_hasRow h)
  rw [longCode?, if_neg (mt isLong_lower_iff.1 hunsteady), Text.lower_lower]
  exact lookup_longCodes_of_hyphen hhyphen

/-- The long code of a known language is its own long form. -/
theorem longCode?_of_lookup (h : longCodes.lookup code = some r) : longCode? r = some r := by
  obtain ⟨-, hlong, hascii, hlower⟩ := longCodes_entries _ (Dict.mem_of_lookup h)
  rw [longCode?, if_pos hlong, Text.lower_of_isAscii hascii, hlower]

/-- The long form of a long form is that long form itself, unless it comes from a code with rows all
of which have a dotted capital I before their last place; then it has none. -/
theorem longForm?_again (h : longForm? (some code) = some r) :
    (longForm? (some r) = some r ↔ (HasRow code → HasSteadyRow code)) ∧
    (longForm? (some r) ≠ some r → longForm? (some r) = none) := by
  change longCode? code = some r at h
  change (longCode? r = some r ↔ _) ∧ (longCode? r ≠ some r → longCode? r = none)
  rw [longCode?] at h
  split at h
  · rename_i hlong
    cases h
    have hrow := isLong_iff.1 hlong
    by_cases hsteady : HasSteadyRow code
    · have hagain := longCode?_lower_of_hasSteadyRow hsteady
      exact ⟨iff_of_true hagain fun _ => hsteady, fun hne => absurd hagain hne⟩
    · have hnone := longCode?_lower_of_hasRow hrow hsteady
      have hne : longCode? (Text.lower code) ≠ some (Text.lower code) := by
        rw [hnone]
        exact nofun
      exact ⟨iff_of_false hne fun hall => hsteady (hall hrow), fun _ => hnone⟩
  · rename_i hlong
    have hagain := longCode?_of_lookup h
    have hnorow : ¬ HasRow code := fun hrow => hlong (isLong_iff.2 hrow)
    exact ⟨iff_of_true hagain fun hrow => absurd hrow hnorow, fun hne => absurd hagain hne⟩

/-- A code with a dotted capital I in one of its two rows. -/
theorem longForm?_again_dotted :
    longForm? (some "xİ-TR-ÀB".toList) = some "xi\u0307-tr-àb".toList ∧
      longForm? (some "xi\u0307-tr-àb".toList) = some "xi\u0307-tr-àb".toList := by
  have hform : longForm? (some "xİ-TR-ÀB".toList) = some "xi\u0307-tr-àb".toList := by
    decide +kernel
  refine ⟨hform, (longForm?_again hform).1.2 ?_⟩
  intro _
  exact ⟨"TR-ÀB".toList, ⟨'T', 'R', 'À', 'B', by decide +kernel⟩, ⟨"xİ-".toList, [], rfl⟩,
    by decide⟩

/-- A long form of which nothing but a dotted capital I has destroyed the row is rejected. -/
theorem longForm?_rejected :
    longForm? (some "İi-TR".toList) = some "i\u0307i-tr".toList ∧
      longForm? (some "i\u0307i-tr".toList) = none := by
  decide +kernel

/-! ## ASCII codes -/

/-- For an ASCII code only the letters count, not their case. -/
theorem longCode?_of_isAscii (h : Text.IsAscii code) :
    longCode? code = if isLong (Text.asciiLower code) then some (Text.asciiLower code)
      else longCodes.lookup (Text.asciiLower code) := by
  have hlong : isLong (Text.asciiLower code) = isLong code := by
    rw [← Text.lower_of_isAscii h, Bool.eq_iff_iff, isLong_lower_iff, isLong_iff]
    constructor
    · rintro ⟨row, hrow, hwithin, -⟩
      exact ⟨row, hrow, hwithin⟩
    · rintro ⟨row, hrow, hwithin⟩
      refine ⟨row, hrow, hwithin, ?_⟩
      intro hdotted
      exact absurd (h _ (hwithin.subset (List.mem_of_mem_take hdotted))) (by decide)
  rw [longCode?, hlong, Text.lower_of_isAscii h]

/-- ASCII codes that differ in case alone have the same long form. It is the code in lower case if
the code has a row, and otherwise the long code of the language that the code in lower case is the
short code of, if any; and it has a row and no capital letter. -/
theorem longForm?_of_isAscii (h : Text.IsAscii code) :
    (∀ other, Text.IsAscii other → Text.asciiLower other = Text.asciiLower code →
      longForm? (some other) = longForm? (some code)) ∧
    (HasRow code → longForm? (some code) = some (Text.asciiLower code)) ∧
    (¬ HasRow code → longForm? (some code) = longCodes.lookup (Text.asciiLower code)) ∧
    ∀ r, longForm? (some code) = some r →
      Text.IsAscii r ∧ (∀ c ∈ r, c.isUpper = false) ∧ HasRow r := by
  change (∀ other, _ → _ → longCode? other = longCode? code) ∧
    (_ → longCode? code = _) ∧ (_ → longCode? code = _) ∧ ∀ r, longCode? code = some r → _
  refine ⟨?_, ?_, ?_, ?_⟩
  · intro other hother hsame
    rw [longCode?_of_isAscii hother, longCode?_of_isAscii h, hsame]
  · intro hrow
    rw [longCode?, if_pos (isLong_iff.2 hrow), Text.lower_of_isAscii h]
  · intro hnorow
    rw [longCode?, if_neg (mt isLong_iff.1 hnorow), Text.lower_of_isAscii h]
  · intro r hform
    rw [longCode?_of_isAscii h] at hform
    split at hform
    · rename_i hlong
      cases hform
      exact ⟨Text.isAscii_asciiLower h, fun _ => Text.isUpper_of_mem_asciiLower,
        isLong_iff.1 hlong⟩
    · obtain ⟨-, hlong, hascii, hlower⟩ := longCodes_entries _ (Dict.mem_of_lookup hform)
      change Text.asciiLower r = r at hlower
      refine ⟨hascii, ?_, isLong_iff.1 hlong⟩
      rw [← hlower]
      exact fun _ => Text.isUpper_of_mem_asciiLower

/-- A code with a row behind an underscore. -/
theorem longForm?_of_isAscii_underscore :
    Text.IsAscii "EN_us-GB".toList ∧
      longForm? (some "en_US-gb".toList) = longForm? (some "EN_us-GB".toList) ∧
      longForm? (some "EN_us-GB".toList) = some "en_us-gb".toList ∧
      HasRow "en_us-gb".toList := by
  have hascii : Text.IsAscii "EN_us-GB".toList := by decide
  have hrow : HasRow "EN_us-GB".toList :=
    ⟨"us-GB".toList, ⟨'u', 's', 'G', 'B', by decide +kernel⟩, ⟨"EN_".toList, [], rfl⟩⟩
  obtain ⟨hsame, hlong, -, himage⟩ := longForm?_of_isAscii hascii
  have hform : longForm? (some "EN_us-GB".toList) = some "en_us-gb".toList := hlong hrow
  have hagain : longForm? (some "en_US-gb".toList) = longForm? (some "EN_us-GB".toList) :=
    hsame "en_US-gb".toList (by decide) (by decide)
  exact ⟨hascii, hagain, hform, (himage _ hform).2.2⟩

end Phrasebook.Locale
