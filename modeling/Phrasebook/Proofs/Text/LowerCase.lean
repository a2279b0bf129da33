import Mathlib.Data.List.Basic
import Phrasebook.Text.Case
import Phrasebook.Text.Word

/-!
# Texts in lower case

Lower case replaces each character by one that is a word character exactly if it was one, and that
has no other lower case; hyphens stay, and no others come in. The one exception is the dotted
capital I, whose lower case is an i and a combining dot, and the dot is no word character. A text in
lower case is its own lower case (`lower_lower`), and that of an ASCII text is what its letters give
(`lower_of_isAscii`).
-/

namespace Phrasebook.Text

/-! ## Runs of code points -/

namespace CaseRun

variable {run other : CaseRun} {ranges : CharClass} {c : Char} {n : Nat}

/-- The code points that a run maps to, as a run that maps them back. -/
def image (run : CaseRun) : CaseRun where
  first := (run.first + run.shift).toNat
  last := (run.last + run.shift).toNat
  step := run.step
  shift := -run.shift

/-- The code points that a run maps. -/
def points (run : CaseRun) : List Nat :=
  List.range' run.first ((run.last - run.first) / run.step + 1) run.step

/-- A class has all code points of a run. Where no range of the class has them all, as for runs with
gaps, they are looked up one by one. -/
def isWithin (run : CaseRun) (ranges : CharClass) : Bool :=
  (ranges.any fun r => run.last.ble r.2 && r.1.ble run.first) ||
    run.points.all fun n => ranges.any fun r => r.1 ≤ n && n ≤ r.2

/-- A class has no code point between the ends of a run. -/
def isOutside (run : CaseRun) (ranges : CharClass) : Bool :=
  ranges.all fun r => run.last.blt r.1 || r.2.blt run.first

/-- Two runs have no code point in common: they lie apart, or one has the even numbers and the other
one the odd ones. -/
def misses (run other : CaseRun) : Bool :=
  run.last.blt other.first || other.last.blt run.first ||
    (run.step == 2 || run.first == run.last) && other.step == 2 &&
      (run.first + other.first) % 2 == 1

theorem maps_iff :
    run.maps n = true ↔ run.first ≤ n ∧ n ≤ run.last ∧ (n - run.first) % run.step = 0 := by
  simp [maps, and_assoc]

theorem mem_points_of_maps (h : run.maps n = true) : n ∈ run.points := by
  obtain ⟨hfirst, hlast, hstep⟩ := maps_iff.1 h
  have hsteps : run.step * ((n - run.first) / run.step) = n - run.first :=
    Nat.mul_div_cancel' (Nat.dvd_of_mod_eq_zero hstep)
  have hle : (n - run.first) / run.step ≤ (run.last - run.first) / run.step :=
    Nat.div_le_div_right (by omega)
  refine List.mem_range'.2 ⟨(n - run.first) / run.step, ?_, ?_⟩
  · omega
  · omega

theorem contains_of_isWithin (h : run.isWithin ranges = true) (hc : run.maps c.toNat = true) :
    ranges.contains c = true := by
  obtain ⟨hfirst, hlast, -⟩ := maps_iff.1 hc
  rw [isWithin, Bool.or_eq_true] at h
  rw [CharClass.contains_iff]
  rcases h with hcovers | hpoints
  · obtain ⟨r, hr, hends⟩ := List.any_eq_true.1 hcovers
    rw [Bool.and_eq_true, Nat.ble_eq, Nat.ble_eq] at hends
    exact ⟨r, hr, by omega, by omega⟩
  · have hpoint := List.all_eq_true.1 hpoints _ (mem_points_of_maps hc)
    simpa using hpoint

theorem not_contains_of_isOutside (h : run.isOutside ranges = true)
    (hc : run.maps c.toNat = true) : ranges.contains c = false := by
  obtain ⟨hfirst, hlast, -⟩ := maps_iff.1 hc
  rw [← Bool.not_eq_true, CharClass.contains_iff]
  rintro ⟨r, hr, hbegins, hends⟩
  have happart := List.all_eq_true.1 h r hr
  rw [Bool.or_eq_true, Nat.blt_eq, Nat.blt_eq] at happart
  omega

theorem not_maps_of_misses (h : run.misses other = true) (hn : run.maps n = true) :
    other.maps n = false := by
  obtain ⟨hfirst, hlast, hstep⟩ := maps_iff.1 hn
  rw [← Bool.not_eq_true, maps_iff]
  rintro ⟨hofirst, holast, hostep⟩
  simp only [misses, Bool.or_eq_true, Bool.and_eq_true, Nat.blt_eq, beq_iff_eq] at h
  rcases h with (hbefore | hbehind) | ⟨⟨hrun, hother⟩, hodd⟩
  · omega
  · omega
  · rw [hother] at hostep
    rcases hrun with hrun | hsingle
    · rw [hrun] at hstep
      omega
    · omega

theorem maps_image (hshift : 0 ≤ run.first + run.shift) (hn : run.maps n = true) :
    run.image.maps (n + run.shift).toNat = true := by
  obtain ⟨hfirst, hlast, hstep⟩ := maps_iff.1 hn
  have hsame : (n + run.shift).toNat - (run.first + run.shift).toNat = n - run.first := by omega
  rw [maps_iff]
  refine ⟨?_, ?_, ?_⟩
  · change (run.first + run.shift).toNat ≤ _
    omega
  · change _ ≤ (run.last + run.shift).toNat
    omega
  · change ((n + run.shift).toNat - (run.first + run.shift).toNat) % run.step = 0
    rw [hsame, hstep]

end CaseRun

/-! ## The lower case of one character -/

variable {c d : Char} {runs : List CaseRun} {run : CaseRun} {s : Text}

theorem mapCase_cases (runs : List CaseRun) (c : Char) :
    (∃ run ∈ runs, run.maps c.toNat = true ∧
      mapCase runs c = Char.ofNat (c.toNat + run.shift).toNat) ∨
    (∀ run ∈ runs, run.maps c.toNat = false) ∧ mapCase runs c = c := by
  rw [mapCase]
  cases hfind : runs.find? (·.maps c.toNat) with
  | some run =>
      have hmaps := List.find?_some hfind
      exact .inl ⟨run, List.mem_of_find?_eq_some hfind, hmaps, rfl⟩
  | none =>
      refine .inr ⟨?_, rfl⟩
      intro run hrun
      exact Bool.eq_false_iff.2 (List.find?_eq_none.1 hfind run hrun)

theorem mapCase_of_unmapped (h : ∀ run ∈ runs, run.maps c.toNat = false) : mapCase runs c = c := by
  obtain ⟨run, hrun, hmaps, -⟩ | ⟨-, hsame⟩ := mapCase_cases runs c
  · rw [h run hrun] at hmaps
    cases hmaps
  · exact hsame

/-- A run that maps the dotted capital I alone. -/
def dottedRun : CaseRun := ⟨304, 304, 1, 0⟩

/-- Capitals come behind the hyphen and are mapped to what comes behind the grave accent. -/
theorem lowerRuns_image : ∀ run ∈ lowerRuns, 65 ≤ run.first ∧ 97 ≤ run.first + run.shift ∧
    (run.image.last < 0xD800 ∨ 0xDFFF < run.image.first ∧ run.image.last < 0x110000) := by
  decide +kernel

/-- A run keeps the class of word characters: it is in it with its image, or both are outside. -/
theorem lowerRuns_words : ∀ run ∈ lowerRuns,
    (run.isWithin wordRanges && run.image.isWithin wordRanges ||
      run.isOutside wordRanges && run.image.isOutside wordRanges) = true := by
  decide +kernel

/-- What a run maps to is mapped no further. -/
theorem lowerRuns_misses : ∀ run ∈ lowerRuns,
    ((dottedRun :: lowerRuns).all fun other => run.image.misses other) = true := by
  decide +kernel

theorem exists_run_sigma : ∃ run ∈ lowerRuns, run.maps 'Σ'.toNat = true := by
  decide +kernel

/-- A character that lower case leaves as it is. -/
structure IsLowered (c : Char) : Prop where
  ne_sigma : c ≠ 'Σ'
  lowerChar_eq : lowerChar c = [c]

theorem isLowered_of_unmapped
    (h : ∀ run ∈ dottedRun :: lowerRuns, run.maps c.toNat = false) : IsLowered c := by
  obtain ⟨hdotted, hruns⟩ := List.forall_mem_cons.1 h
  constructor
  · rintro rfl
    obtain ⟨run, hrun, hmaps⟩ := exists_run_sigma
    rw [hruns run hrun] at hmaps
    cases hmaps
  · have hne : c.toNat ≠ 304 := by
      intro heq
      rw [heq] at hdotted
      cases hdotted
    rw [lowerChar, if_neg hne, mapCase_of_unmapped hruns]

/-- One character that is the lower case of another one. -/
structure LowersTo (c d : Char) : Prop where
  isWord_eq : isWord d = isWord c
  hyphen_iff : d = '-' ↔ c = '-'
  isLowered : IsLowered d

theorem toNat_ofNat {n : Nat} (h : n.isValidChar) : (Char.ofNat n).toNat = n := by
  rw [Char.ofNat, dif_pos h]
  rfl

theorem toNat_mapped (hrun : run ∈ lowerRuns) (hc : run.maps c.toNat = true) :
    (Char.ofNat (c.toNat + run.shift).toNat).toNat = (c.toNat + run.shift).toNat := by
  obtain ⟨-, hshift, hvalid⟩ := lowerRuns_image run hrun
  obtain ⟨hfirst, hlast, -⟩ := CaseRun.maps_iff.1 (CaseRun.maps_image (by omega) hc)
  apply toNat_ofNat
  rw [Nat.isValidChar]
  omega

theorem lowersTo_mapped (hrun : run ∈ lowerRuns) (hc : run.maps c.toNat = true) :
    LowersTo c (Char.ofNat (c.toNat + run.shift).toNat) := by
  obtain ⟨hcapital, hshift, -⟩ := lowerRuns_image run hrun
  obtain ⟨hfirst, -, -⟩ := CaseRun.maps_iff.1 hc
  have htoNat := toNat_mapped hrun hc
  have himage := CaseRun.maps_image (by omega) hc
  rw [← htoNat] at himage
  generalize Char.ofNat (c.toNat + run.shift).toNat = d at htoNat himage
  refine ⟨?_, ?_, isLowered_of_unmapped ?_⟩
  · have hwords := lowerRuns_words run hrun
    rw [Bool.or_eq_true, Bool.and_eq_true, Bool.and_eq_true] at hwords
    rw [isWord, isWord]
    rcases hwords with ⟨hin, himagein⟩ | ⟨hout, himageout⟩
    · rw [CaseRun.contains_of_isWithin himagein himage, CaseRun.contains_of_isWithin hin hc]
    · rw [CaseRun.not_contains_of_isOutside himageout himage,
        CaseRun.not_contains_of_isOutside hout hc]
  · constructor
    · rintro rfl
      change 45 = _ at htoNat
      omega
    · rintro rfl
      change run.first ≤ 45 at hfirst
      omega
  · intro other hother
    exact CaseRun.not_maps_of_misses (List.all_eq_true.1 (lowerRuns_misses run hrun) other hother)
      himage

/-- Every character but the dotted capital I has one character for its lower case. A sigma has two
to choose from. -/
theorem exists_lowerChar (hsigma : c ≠ 'Σ') (hdotted : c ≠ 'İ') :
    ∃ d, LowersTo c d ∧ lowerChar c = [d] := by
  have hne : c.toNat ≠ 304 := fun heq => hdotted (Char.toNat_inj.1 heq)
  have hlower : lowerChar c = [mapCase lowerRuns c] := by rw [lowerChar, if_neg hne]
  obtain ⟨run, hrun, hmaps, himage⟩ | ⟨-, hsame⟩ := mapCase_cases lowerRuns c
  · rw [hlower, himage]
    exact ⟨_, lowersTo_mapped hrun hmaps, rfl⟩
  · rw [hlower, hsame]
    rw [hsame] at hlower
    exact ⟨c, ⟨rfl, Iff.rfl, ⟨hsigma, hlower⟩⟩, rfl⟩

/-! ## The lower case of a text -/

/-- The combining dot that is left of a dotted capital I. -/
def combiningDot : Char := Char.ofNat 775

theorem lowersTo_sigma : LowersTo 'Σ' 'σ' := by
  refine ⟨?_, ?_, ?_, ?_⟩ <;> decide +kernel

theorem lowersTo_finalSigma : LowersTo 'Σ' 'ς' := by
  refine ⟨?_, ?_, ?_, ?_⟩ <;> decide +kernel

/-- What lower case puts in the place of a character. -/
theorem lowerAfter_cons_cases (c : Char) (seen rest : Text) :
    (c = 'İ' ∧ lowerAfter seen (c :: rest) = 'i' :: combiningDot :: lowerAfter (c :: seen) rest) ∨
    ∃ d, c ≠ 'İ' ∧ LowersTo c d ∧ lowerAfter seen (c :: rest) = d :: lowerAfter (c :: seen) rest := by
  by_cases hdotted : c = 'İ'
  · subst hdotted
    exact .inl ⟨rfl, rfl⟩
  · rw [lowerAfter]
    by_cases hsigma : c = 'Σ'
    · subst hsigma
      rw [if_pos rfl]
      split
      · exact .inr ⟨_, hdotted, lowersTo_finalSigma, rfl⟩
      · exact .inr ⟨_, hdotted, lowersTo_sigma, rfl⟩
    · obtain ⟨d, hd, hlower⟩ := exists_lowerChar hsigma hdotted
      rw [if_neg hsigma, hlower]
      exact .inr ⟨d, hdotted, hd, rfl⟩

theorem isLowered_i : IsLowered 'i' := by
  constructor <;> decide +kernel

theorem isLowered_combiningDot : IsLowered combiningDot := by
  constructor <;> decide +kernel

theorem isLowered_of_mem_lowerAfter {seen : Text} (h : d ∈ lowerAfter seen s) : IsLowered d := by
  induction s generalizing seen with
  | nil => cases h
  | cons c rest ih =>
      obtain ⟨rfl, heq⟩ | ⟨lowered, -, hlowers, heq⟩ := lowerAfter_cons_cases c seen rest
      · rw [heq, List.mem_cons, List.mem_cons] at h
        obtain rfl | rfl | hrest := h
        · exact isLowered_i
        · exact isLowered_combiningDot
        · exact ih hrest
      · rw [heq, List.mem_cons] at h
        obtain rfl | hrest := h
        · exact hlowers.isLowered
        · exact ih hrest

theorem lowerAfter_of_isLowered (h : ∀ c ∈ s, IsLowered c) (seen : Text) :
    lowerAfter seen s = s := by
  induction s generalizing seen with
  | nil => rfl
  | cons c rest ih =>
      obtain ⟨hc, hrest⟩ := List.forall_mem_cons.1 h
      rw [lowerAfter, if_neg hc.ne_sigma, hc.lowerChar_eq, ih hrest, List.singleton_append]

/-- A text in lower case is its own lower case. -/
theorem lower_lower (s : Text) : lower (lower s) = lower s :=
  lowerAfter_of_isLowered (fun _ h => isLowered_of_mem_lowerAfter h) []

theorem hyphen_mem_lowerAfter (seen : Text) (h : '-' ∈ s) : '-' ∈ lowerAfter seen s := by
  induction s generalizing seen with
  | nil => cases h
  | cons c rest ih =>
      obtain ⟨rfl, heq⟩ | ⟨d, -, hd, heq⟩ := lowerAfter_cons_cases c seen rest
      · rw [heq]
        have hrest : '-' ∈ rest := List.mem_of_ne_of_mem (by decide) h
        exact List.mem_cons_of_mem _ (List.mem_cons_of_mem _ (ih _ hrest))
      · rw [heq, List.mem_cons]
        obtain hc | hrest := List.mem_cons.1 h
        · exact .inl (hd.hyphen_iff.2 hc.symm).symm
        · exact .inr (ih _ hrest)

/-! ## ASCII texts -/

/-- A text of ASCII characters. -/
def IsAscii (s : Text) : Prop :=
  ∀ c ∈ s, c.toNat < 128

instance (s : Text) : Decidable (IsAscii s) :=
  List.decidableBAll (fun c : Char => c.toNat < 128) s

/-- The table has one run of ASCII characters. -/
theorem lowerRuns_ascii : ∀ run ∈ lowerRuns, run.first < 128 →
    run.first = 65 ∧ run.last = 90 ∧ run.shift = 32 := by
  decide +kernel

theorem lowerChar_of_isAscii (h : c.toNat < 128) : lowerChar c = asciiLower [c] := by
  have hcapital : ('A' ≤ c ∧ c ≤ 'Z') ↔ 65 ≤ c.toNat ∧ c.toNat ≤ 90 := Iff.rfl
  have hne : c.toNat ≠ 304 := by omega
  rw [lowerChar, if_neg hne, asciiLower, List.map_singleton]
  obtain ⟨run, hrun, hmaps, himage⟩ | ⟨hnone, hsame⟩ := mapCase_cases lowerRuns c
  · obtain ⟨hfirst, hlast, -⟩ := CaseRun.maps_iff.1 hmaps
    obtain ⟨hrunfirst, hrunlast, hrunshift⟩ := lowerRuns_ascii run hrun (by omega)
    have htoNat : ((c.toNat : Int) + 32).toNat = c.toNat + 32 := rfl
    rw [himage, hrunshift, htoNat, if_pos (hcapital.2 (by omega))]
  · have hletters : CaseRun.maps ⟨65, 90, 1, 32⟩ c.toNat = false := hnone _ List.mem_cons_self
    rw [← Bool.not_eq_true, CaseRun.maps_iff] at hletters
    rw [hsame, if_neg]
    rw [hcapital]
    intro hrange
    exact hletters ⟨hrange.1, hrange.2, Nat.mod_one _⟩

/-- The lower case of an ASCII text is that of its ASCII letters. -/
theorem lowerAfter_of_isAscii (h : IsAscii s) (seen : Text) : lowerAfter seen s = asciiLower s := by
  induction s generalizing seen with
  | nil => rfl
  | cons c rest ih =>
      obtain ⟨hc, hrest⟩ := List.forall_mem_cons.1 h
      have hsigma : c ≠ 'Σ' := by
        rintro rfl
        exact absurd hc (by decide)
      rw [lowerAfter, if_neg hsigma, lowerChar_of_isAscii hc, ih hrest]
      rfl

theorem lower_of_isAscii (h : IsAscii s) : lower s = asciiLower s :=
  lowerAfter_of_isAscii h []

theorem asciiLower_take (n : Nat) (s : Text) : asciiLower (s.take n) = (asciiLower s).take n :=
  List.map_take

theorem mem_asciiLower_cases (h : d ∈ asciiLower s) :
    97 ≤ d.toNat ∧ d.toNat ≤ 122 ∨ d ∈ s ∧ ¬ (65 ≤ d.toNat ∧ d.toNat ≤ 90) := by
  obtain ⟨c, hc, rfl⟩ := List.mem_map.1 h
  split
  · rename_i hcapital
    change 65 ≤ c.toNat ∧ c.toNat ≤ 90 at hcapital
    have hchar : (c.toNat + 32).isValidChar := .inl (by omega)
    rw [toNat_ofNat hchar]
    exact .inl (by omega)
  · rename_i hcapital
    exact .inr ⟨hc, hcapital⟩

theorem isAscii_asciiLower (h : IsAscii s) : IsAscii (asciiLower s) := by
  intro d hd
  obtain ⟨-, hlast⟩ | ⟨hmem, -⟩ := mem_asciiLower_cases hd
  · omega
  · exact h d hmem

theorem isUpper_of_mem_asciiLower (h : d ∈ asciiLower s) : d.isUpper = false := by
  apply decide_eq_false
  change ¬ (65 ≤ d.toNat ∧ d.toNat ≤ 90)
  obtain ⟨hfirst, -⟩ | ⟨-, hcapital⟩ := mem_asciiLower_cases h
  · omega
  · exact hcapital

end Phrasebook.Text
