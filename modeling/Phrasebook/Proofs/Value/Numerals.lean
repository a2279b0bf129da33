import Mathlib.Data.List.Basic
import Phrasebook.Proofs.Paths
import Phrasebook.Proofs.Template.Positions

/-!
# How integers are written

A numeral is a sign or none before runs of digits of any script, with one underscore between two
runs, and there may be blanks around it. Reading a text as an integer decides this grammar, so a
text writes at most one integer. The decimal text of an integer is a numeral of it, which makes
printing and reading inverse to each other as far as numerals may go.
-/

namespace Phrasebook

/-! ## Blanks around a text -/

/-- What is left of a text when it is trimmed has only blanks around it. -/
theorem Text.exists_blanks_trim (blank : Char → Bool) (s : Text) :
    ∃ before after, s = before ++ trim blank s ++ after ∧ (∀ c ∈ before, blank c = true) ∧
      ∀ c ∈ after, blank c = true := by
  let unled := (s.dropWhile blank).reverse
  have hunled : s.dropWhile blank = trim blank s ++ (unled.takeWhile blank).reverse := by
    rw [trim, ← List.reverse_append, List.takeWhile_append_dropWhile, List.reverse_reverse]
  refine ⟨s.takeWhile blank, (unled.takeWhile blank).reverse, ?_, ?_, ?_⟩
  · rw [List.append_assoc, ← hunled, List.takeWhile_append_dropWhile]
  · exact fun c hc => List.mem_takeWhile_imp hc
  · exact fun c hc => List.mem_takeWhile_imp (List.mem_reverse.1 hc)

/-- Trimming leaves a text without blanks at its ends. -/
theorem Text.trim_blanks {blank : Char → Bool} {before body after : Text}
    (hbefore : ∀ c ∈ before, blank c = true) (hafter : ∀ c ∈ after, blank c = true)
    (hne : body ≠ []) (hfirst : ∀ c, body.head? = some c → blank c = false)
    (hlast : ∀ c, body.getLast? = some c → blank c = false) :
    trim blank (before ++ body ++ after) = body := by
  have hfront : ∀ c, (body ++ after).head? = some c → blank c = false := by
    intro c hc
    obtain ⟨first, rest, rfl⟩ := List.exists_cons_of_ne_nil hne
    exact hfirst c hc
  have hback : ∀ c ∈ after.reverse, blank c = true := fun c hc =>
    hafter c (List.mem_reverse.1 hc)
  rw [trim, List.append_assoc, Template.dropWhile_append_stop hbefore hfront, List.reverse_append,
    Template.dropWhile_append_stop hback (by rwa [List.head?_reverse]), List.reverse_reverse]

namespace Numeral

/-! ## Runs of digits -/

/-- Runs of digits, none of them empty. -/
structure AreRuns (runs : List Text) : Prop where
  ne_nil : runs ≠ []
  run_ne_nil : ∀ run ∈ runs, run ≠ []
  digits : ∀ run ∈ runs, ∀ c ∈ run, (Text.digit? c).isSome

/-- The text of runs: one underscore between two of them. -/
def runsText (runs : List Text) : Text :=
  Text.join ['_'] runs

/-- The digits of runs by their values. -/
def runsDigits (runs : List Text) : List Nat :=
  runs.flatten.filterMap Text.digit?

theorem digit?_underscore : Text.digit? '_' = none := by decide

theorem digit?_sign {c : Char} (h : c = '+' ∨ c = '-') : Text.digit? c = none := by
  rcases h with rfl | rfl <;> decide

theorem length_runsDigits {runs : List Text} (h : AreRuns runs) :
    (runsDigits runs).length = runs.flatten.length := by
  rw [runsDigits, List.length_filterMap_eq_countP, List.countP_eq_length]
  intro c hc
  obtain ⟨run, hrun, hmem⟩ := List.mem_flatten.1 hc
  exact h.digits run hrun c hmem

/-! ## Reading runs -/

section

variable {c : Char} {run : Text} {rest : List Text} {d : Nat}

theorem AreRuns.single (h : Text.digit? c = some d) : AreRuns [[c]] := by
  refine ⟨List.cons_ne_nil _ _, ?_, ?_⟩
  · simp
  · simp [h]

/-- A digit and an underscore before runs are one more run. -/
theorem AreRuns.consRun (h : Text.digit? c = some d) (hrest : AreRuns rest) :
    AreRuns ([c] :: rest) := by
  refine ⟨List.cons_ne_nil _ _, ?_, ?_⟩
  · exact List.forall_mem_cons.2 ⟨List.cons_ne_nil _ _, hrest.run_ne_nil⟩
  · exact List.forall_mem_cons.2 ⟨by simp [h], hrest.digits⟩

/-- A digit before a digit belongs to its run. -/
theorem AreRuns.consDigit (h : Text.digit? c = some d) (hruns : AreRuns (run :: rest)) :
    AreRuns ((c :: run) :: rest) := by
  obtain ⟨-, hrestne⟩ := List.forall_mem_cons.1 hruns.run_ne_nil
  obtain ⟨hrun, hrest⟩ := List.forall_mem_cons.1 hruns.digits
  refine ⟨List.cons_ne_nil _ _, ?_, ?_⟩
  · exact List.forall_mem_cons.2 ⟨List.cons_ne_nil _ _, hrestne⟩
  · exact List.forall_mem_cons.2 ⟨List.forall_mem_cons.2 ⟨by simp [h], hrun⟩, hrest⟩

/-- What stands behind the first digit of runs: nothing, an underscore and more runs, or the next
digit of its run. -/
theorem AreRuns.cases_consDigit (h : AreRuns ((c :: run) :: rest)) :
    run = [] ∧ rest = [] ∨ run = [] ∧ AreRuns rest ∨
      ∃ e more, run = e :: more ∧ e ≠ '_' ∧ AreRuns (run :: rest) := by
  obtain ⟨-, hrestne⟩ := List.forall_mem_cons.1 h.run_ne_nil
  obtain ⟨hrun, hrest⟩ := List.forall_mem_cons.1 h.digits
  cases run with
  | nil =>
      by_cases hend : rest = []
      · exact .inl ⟨rfl, hend⟩
      · exact .inr (.inl ⟨rfl, hend, hrestne, hrest⟩)
  | cons e more =>
      refine .inr (.inr ⟨e, more, rfl, ?_, List.cons_ne_nil _ _, ?_, ?_⟩)
      · rintro rfl
        have hdigit := hrun '_' (List.mem_cons_of_mem c List.mem_cons_self)
        rw [digit?_underscore] at hdigit
        cases hdigit
      · exact List.forall_mem_cons.2 ⟨List.cons_ne_nil _ _, hrestne⟩
      · exact List.forall_mem_cons.2 ⟨(List.forall_mem_cons.1 hrun).2, hrest⟩

theorem runsText_consRun (h : rest ≠ []) :
    runsText (run :: rest) = run ++ '_' :: runsText rest := by
  obtain ⟨next, more, rfl⟩ := List.exists_cons_of_ne_nil h
  rw [runsText, Text.join_cons_cons, List.append_assoc]
  rfl

theorem runsText_consDigit : runsText ((c :: run) :: rest) = c :: runsText (run :: rest) := by
  cases rest with
  | nil => rfl
  | cons next more => rfl

theorem runsDigits_consDigit (h : Text.digit? c = some d) :
    runsDigits ((c :: run) :: rest) = d :: runsDigits (run :: rest) := by
  simp [runsDigits, h]

end

/-- The text that digits are read from consists of runs. -/
theorem exists_runs_of_digits? {s : Text} {digits : List Nat}
    (h : digits? Text.digit? s = some digits) :
    ∃ runs, AreRuns runs ∧ s = runsText runs ∧ digits = runsDigits runs := by
  fun_induction digits? Text.digit? s generalizing digits with
  | case1 => cases h
  | case2 c =>
      obtain ⟨d, hd, rfl⟩ := Option.map_eq_some_iff.1 h
      exact ⟨[[c]], .single hd, rfl, by simp [runsDigits, hd]⟩
  | case3 c rest n ns hrest hc ih =>
      cases h
      obtain ⟨runs, hruns, rfl, rfl⟩ := ih hrest
      refine ⟨[c] :: runs, hruns.consRun hc, ?_, ?_⟩
      · rw [runsText_consRun hruns.ne_nil]
        rfl
      · rw [runsDigits_consDigit hc]
        rfl
  | case4 => cases h
  | case5 c d rest hunder n ns hrest hc ih =>
      cases h
      obtain ⟨runs, hruns, htext, rfl⟩ := ih hrest
      obtain ⟨run, more, rfl⟩ := List.exists_cons_of_ne_nil hruns.ne_nil
      refine ⟨(c :: run) :: more, hruns.consDigit hc, ?_, (runsDigits_consDigit hc).symm⟩
      rw [htext, runsText_consDigit]
  | case6 => cases h

theorem digits?_runsText {runs : List Text} (h : AreRuns runs) :
    digits? Text.digit? (runsText runs) = some (runsDigits runs) := by
  induction runs with
  | nil => exact absurd rfl h.ne_nil
  | cons run rest ih =>
      induction run with
      | nil => exact absurd rfl (h.run_ne_nil [] List.mem_cons_self)
      | cons c run ihrun =>
          obtain ⟨d, hd⟩ := Option.isSome_iff_exists.1
            (h.digits (c :: run) List.mem_cons_self c List.mem_cons_self)
          rw [runsText_consDigit, runsDigits_consDigit hd]
          rcases h.cases_consDigit with ⟨rfl, rfl⟩ | ⟨rfl, hrest⟩ | ⟨e, more, rfl, he, hruns⟩
          · simp [runsText, runsDigits, digits?, hd]
          · rw [runsText_consRun hrest.ne_nil, List.nil_append, digits?, if_pos rfl, hd, ih hrest]
            rfl
          · have hread := ihrun hruns
            rw [runsText_consDigit] at hread ⊢
            rw [digits?, if_neg he, hd, hread]

/-- Reading digits finds the runs that a text consists of. -/
theorem digits?_eq_some_iff {s : Text} {digits : List Nat} :
    digits? Text.digit? s = some digits ↔
      ∃ runs, AreRuns runs ∧ s = runsText runs ∧ digits = runsDigits runs := by
  refine ⟨exists_runs_of_digits?, ?_⟩
  rintro ⟨runs, hruns, rfl, rfl⟩
  exact digits?_runsText hruns

/-! ## Signs -/

/-- What may stand before the digits of a numeral. -/
inductive Sign
  | none
  | plus
  | minus

/-- The text of a sign. -/
def Sign.text : Sign → Text
  | .none => []
  | .plus => ['+']
  | .minus => ['-']

/-- The integer of a number with a sign. -/
def Sign.apply : Sign → Nat → Int
  | .minus, n => -n
  | _, n => n

theorem mem_sign_text {sign : Sign} {c : Char} (h : c ∈ sign.text) : c = '+' ∨ c = '-' := by
  cases sign with
  | none => cases h
  | plus => exact .inl (List.mem_singleton.1 h)
  | minus => exact .inr (List.mem_singleton.1 h)

/-- Every text has a sign, if only none. -/
theorem exists_sign (s : Text) : ∃ sg : Sign, s = sg.text ++ (sign s).2 ∧
    ∀ n : Nat, (if (sign s).1 then -(n : Int) else n) = sg.apply n := by
  unfold sign
  split
  · exact ⟨.minus, rfl, fun n => rfl⟩
  · exact ⟨.plus, rfl, fun n => rfl⟩
  · exact ⟨.none, rfl, fun n => rfl⟩

theorem AreRuns.exists_first {runs : List Text} (h : AreRuns runs) :
    ∃ c rest, runsText runs = c :: rest ∧ (Text.digit? c).isSome := by
  obtain ⟨run, rest, rfl⟩ := List.exists_cons_of_ne_nil h.ne_nil
  obtain ⟨c, more, rfl⟩ := List.exists_cons_of_ne_nil (h.run_ne_nil run List.mem_cons_self)
  exact ⟨c, _, runsText_consDigit, h.digits _ List.mem_cons_self c List.mem_cons_self⟩

theorem AreRuns.exists_last {runs : List Text} (h : AreRuns runs) :
    ∃ front c, runsText runs = front ++ [c] ∧ (Text.digit? c).isSome := by
  obtain ⟨before, run, rfl⟩ := (List.eq_nil_or_concat runs).resolve_left h.ne_nil
  rw [List.concat_eq_append] at h ⊢
  have hmem : run ∈ before ++ [run] := List.mem_append_right _ (List.mem_singleton_self run)
  obtain ⟨front, c, rfl⟩ := (List.eq_nil_or_concat run).resolve_left (h.run_ne_nil run hmem)
  have hdigit := h.digits _ hmem c (by simp)
  rw [List.concat_eq_append]
  clear h hmem
  induction before with
  | nil => exact ⟨front, c, rfl, hdigit⟩
  | cons first before ih =>
      obtain ⟨text, last, htext, hlast⟩ := ih
      refine ⟨first ++ '_' :: text, last, ?_, hlast⟩
      rw [List.cons_append, runsText_consRun (by simp), htext]
      simp

/-- Runs of digits end the sign before them. -/
theorem sign_append {runs : List Text} (h : AreRuns runs) (sg : Sign) :
    (sign (sg.text ++ runsText runs)).2 = runsText runs ∧
      ∀ n : Nat, (if (sign (sg.text ++ runsText runs)).1 then -(n : Int) else n) = sg.apply n := by
  cases sg with
  | plus => exact ⟨rfl, fun n => rfl⟩
  | minus => exact ⟨rfl, fun n => rfl⟩
  | none =>
      obtain ⟨c, rest, htext, hdigit⟩ := h.exists_first
      have hsign : sign (c :: rest) = (false, c :: rest) := by
        unfold sign
        split
        · rename_i heq
          cases heq
          rw [digit?_sign (.inr rfl)] at hdigit
          cases hdigit
        · rename_i heq
          cases heq
          rw [digit?_sign (.inl rfl)] at hdigit
          cases hdigit
        · rfl
      rw [Sign.text, List.nil_append, htext, hsign]
      exact ⟨rfl, fun n => rfl⟩

/-! ## Numerals -/

/-- No digit of any script is a blank. -/
theorem isBlank_of_digit {c : Char} (h : (Text.digit? c).isSome) : Text.isBlank c = false := by
  have happart : ∀ base ∈ Text.zeros, ∀ range ∈ Text.blankRanges,
      range.2 < base ∨ base + 9 < range.1 := by decide
  rw [Text.digit?, Option.isSome_map, List.find?_isSome] at h
  obtain ⟨base, hbase, hdigit⟩ := h
  simp only [Bool.and_eq_true, decide_eq_true_eq] at hdigit
  rw [Text.isBlank, ← Bool.not_eq_true, Text.CharClass.contains_iff]
  rintro ⟨range, hrange, hlow, hhigh⟩
  rcases happart base hbase range hrange with h | h
  · omega
  · omega

theorem isNumeralBlank_of_digit {c : Char} (h : (Text.digit? c).isSome) :
    Text.isNumeralBlank c = false := by
  rw [Text.isNumeralBlank, isBlank_of_digit h, Bool.false_and]

theorem isNumeralBlank_of_mem_sign {sg : Sign} {c : Char} (h : c ∈ sg.text) :
    Text.isNumeralBlank c = false := by
  rcases mem_sign_text h with rfl | rfl <;> decide

/-- A text is a numeral of an integer, for a class of blanks: a sign or none and runs of at most
4300 digits with one underscore between two runs, and blanks around them. -/
inductive IsNumeral (blank : Char → Bool) : Text → Int → Prop
  | written {before after : Text} {runs : List Text} (sg : Sign)
      (before_blank : ∀ c ∈ before, blank c = true) (after_blank : ∀ c ∈ after, blank c = true)
      (runs_digits : AreRuns runs) (length_le : runs.flatten.length ≤ 4300) :
      IsNumeral blank (before ++ (sg.text ++ runsText runs) ++ after)
        (sg.apply (Nat.ofDigits 10 (runsDigits runs).reverse))

theorem trim_numeral {before after : Text} {runs : List Text} (sg : Sign)
    (hbefore : ∀ c ∈ before, Text.isNumeralBlank c = true)
    (hafter : ∀ c ∈ after, Text.isNumeralBlank c = true) (hruns : AreRuns runs) :
    Text.trim Text.isNumeralBlank (before ++ (sg.text ++ runsText runs) ++ after) =
      sg.text ++ runsText runs := by
  obtain ⟨first, rest, hfirst, hdigit⟩ := hruns.exists_first
  obtain ⟨front, last, hlast, hdigit'⟩ := hruns.exists_last
  refine Text.trim_blanks hbefore hafter ?_ ?_ ?_
  · simp [hfirst]
  · intro c hc
    cases hsign : sg.text with
    | nil =>
        rw [hsign, List.nil_append, hfirst] at hc
        obtain rfl := Option.some.inj hc
        exact isNumeralBlank_of_digit hdigit
    | cons d more =>
        rw [hsign] at hc
        obtain rfl := Option.some.inj hc
        exact isNumeralBlank_of_mem_sign (hsign ▸ List.mem_cons_self)
  · intro c hc
    rw [hlast, ← List.append_assoc, List.getLast?_concat] at hc
    obtain rfl := Option.some.inj hc
    exact isNumeralBlank_of_digit hdigit'

/-- A text is read as an integer exactly if it is a numeral of it. -/
theorem ofText?_eq_some_iff {s : Text} {n : Int} :
    ofText? s = some n ↔ IsNumeral Text.isNumeralBlank s n := by
  constructor
  · intro h
    obtain ⟨before, after, hs, hbefore, hafter⟩ := Text.exists_blanks_trim Text.isNumeralBlank s
    obtain ⟨sg, htrim, hsign⟩ := exists_sign (Text.trim Text.isNumeralBlank s)
    rw [ofText?, integer?] at h
    dsimp only at h
    split at h
    · cases h
    · rename_i digits hdigits
      obtain ⟨runs, hruns, htext, rfl⟩ := digits?_eq_some_iff.1 hdigits
      split at h
      · rename_i hlength
        cases h
        rw [length_runsDigits hruns] at hlength
        have hwritten : s = before ++ (sg.text ++ runsText runs) ++ after := by
          rw [← htext, ← htrim]
          exact hs
        rw [hsign, value_eq_ofDigits, hwritten]
        exact .written sg hbefore hafter hruns hlength
      · cases h
  · rintro ⟨sg, hbefore, hafter, hruns, hlength⟩
    obtain ⟨htext, hvalue⟩ := sign_append hruns sg
    rw [ofText?, integer?, trim_numeral sg hbefore hafter hruns]
    dsimp only
    rw [htext, digits?_runsText hruns]
    dsimp only
    rw [length_runsDigits hruns, maxDigits, if_pos hlength, hvalue, value_eq_ofDigits]

/-- A text is a numeral of one integer at most. -/
theorem IsNumeral.unique {s : Text} {n m : Int} (h : IsNumeral Text.isNumeralBlank s n)
    (hother : IsNumeral Text.isNumeralBlank s m) : n = m := by
  have hread := ofText?_eq_some_iff.2 h
  rw [ofText?_eq_some_iff.2 hother] at hread
  exact (Option.some.inj hread).symm

/-! ## Printed integers -/

theorem digit?_of_isDigit {c : Char} (h : c.isDigit = true) :
    Text.digit? c = some (c.toNat - 48) := by
  simp only [Char.isDigit, Bool.and_eq_true, decide_eq_true_eq, ge_iff_le, UInt32.le_iff_toNat_le]
    at h
  have hlow : 48 ≤ c.toNat := h.1
  have hhigh : c.toNat ≤ 57 := h.2
  have hfind : Text.zeros.find? (fun base => base ≤ c.toNat && c.toNat ≤ base + 9) = some 48 :=
    List.find?_cons_of_pos (by simp [hlow, hhigh])
  rw [Text.digit?, hfind, Option.map_some]

/-- The decimal text of a number is a single run of digits. -/
theorem areRuns_ofNat (n : Nat) : AreRuns [Text.ofNat n] := by
  refine ⟨List.cons_ne_nil _ _, ?_, ?_⟩
  · simp [Text.ofNat, Nat.toDigits_ne_nil]
  · intro run hrun c hc
    rw [List.mem_singleton.1 hrun] at hc
    have hdigit := Nat.isDigit_of_mem_toDigits (by decide) (by decide) hc
    rw [digit?_of_isDigit hdigit]
    rfl

theorem ofDigits_ofNat (n : Nat) :
    Nat.ofDigits 10 (runsDigits [Text.ofNat n]).reverse = n := by
  have hdigits : runsDigits [Text.ofNat n] = (Text.ofNat n).map fun c => c.toNat - 48 := by
    rw [runsDigits, List.flatten_singleton, List.filterMap_eq_map_iff_forall_eq_some]
    intro c hc
    exact digit?_of_isDigit (Nat.isDigit_of_mem_toDigits (by decide) (by decide) hc)
  rw [← value_eq_ofDigits, hdigits, value, List.foldl_map]
  exact Nat.ofDigitChars_ten_toDigits

/-- An integer of at most 4300 digits is what its text is read as. -/
theorem ofText?_ofInt {n : Int} (h : (Text.ofNat n.natAbs).length ≤ 4300) :
    ofText? (Text.ofInt n) = some n := by
  have hread : ∀ sg : Sign, IsNumeral Text.isNumeralBlank (sg.text ++ Text.ofNat n.natAbs)
      (sg.apply n.natAbs) := by
    intro sg
    have hnumeral : IsNumeral Text.isNumeralBlank
        ([] ++ (sg.text ++ runsText [Text.ofNat n.natAbs]) ++ [])
        (sg.apply (Nat.ofDigits 10 (runsDigits [Text.ofNat n.natAbs]).reverse)) :=
      .written sg nofun nofun (areRuns_ofNat n.natAbs) (by simpa using h)
    rw [ofDigits_ofNat] at hnumeral
    simpa [runsText] using hnumeral
  rw [ofText?_eq_some_iff]
  cases n with
  | ofNat m => exact hread .none
  | negSucc m => exact hread .minus

end Numeral

end Phrasebook
