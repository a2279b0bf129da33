import Phrasebook.Proofs.Text.LowerCase

/-!
# Texts in upper case

Upper case maps no character before the digits, and none to one of these. So the slash and the
escape character are in a text in upper case exactly if they are in the text (`mem_upper_iff`).
-/

namespace Phrasebook.Text

variable {c d : Char} {s : Text}

/-- The characters before the digits, without the null character. -/
def IsBeforeDigits (c : Char) : Prop :=
  0 < c.toNat ∧ c.toNat < 48

instance (c : Char) : Decidable (IsBeforeDigits c) :=
  inferInstanceAs (Decidable (_ ∧ _))

theorem eq_toNat_of_ofNat_eq {n : Nat} (hd : IsBeforeDigits d) (h : Char.ofNat n = d) :
    n = d.toNat := by
  by_cases hvalid : n.isValidChar
  · rw [← h, toNat_ofNat hvalid]
  · rw [Char.ofNat, dif_neg hvalid] at h
    rw [← h] at hd
    exact absurd hd (by decide)

theorem upperRuns_behind : ∀ run ∈ upperRuns, 48 ≤ run.first ∧ 48 ≤ run.first + run.shift := by
  decide +kernel

theorem upperSequences_behind :
    ∀ entry ∈ upperSequences, 48 ≤ entry.1 ∧ ∀ n ∈ entry.2, 48 ≤ n := by
  decide +kernel

theorem mapCase_eq_iff (hd : IsBeforeDigits d) : mapCase upperRuns c = d ↔ c = d := by
  obtain ⟨run, hrun, hmaps, himage⟩ | ⟨-, hsame⟩ := mapCase_cases upperRuns c
  · obtain ⟨hfirst, hshift⟩ := upperRuns_behind run hrun
    obtain ⟨hbegins, -⟩ := CaseRun.maps_iff.1 hmaps
    have hbefore := hd.2
    refine iff_of_false (fun heq => ?_) ?_
    · have hcode := eq_toNat_of_ofNat_eq hd (himage.symm.trans heq)
      omega
    · rintro rfl
      omega
  · rw [hsame]

theorem mem_upperChar_iff (hd : IsBeforeDigits d) : d ∈ upperChar c ↔ c = d := by
  unfold upperChar
  split
  · rename_i first codes hfind
    obtain ⟨hfirst, hcodes⟩ := upperSequences_behind _ (List.mem_of_find?_eq_some hfind)
    have hcode : first = c.toNat := by simpa using List.find?_some hfind
    have hbefore := hd.2
    refine iff_of_false (fun hmem => ?_) ?_
    · obtain ⟨n, hn, heq⟩ := List.mem_map.1 hmem
      have hle := hcodes n hn
      have hsame := eq_toNat_of_ofNat_eq hd heq
      omega
    · rintro rfl
      have hle : 48 ≤ first := hfirst
      omega
  · rw [List.mem_singleton, eq_comm, mapCase_eq_iff hd]

theorem mem_upper_iff (hd : IsBeforeDigits d) : d ∈ upper s ↔ d ∈ s := by
  simp [upper, List.mem_flatMap, mem_upperChar_iff hd]

end Phrasebook.Text
