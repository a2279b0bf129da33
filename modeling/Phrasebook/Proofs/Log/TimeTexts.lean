import Phrasebook.Proofs.Log.EscapeFree

/-!
# Times without escape characters

A directive of a format for times writes numbers, names and fixed words, or what stands in the
format itself. So the text of a moment has an escape character only if its format has one.
-/

namespace Phrasebook.Log

variable {m : Moment} {manner : Manner} {format s : Text} {filled : Filled} {part : Part}

/-! ## Capitals -/

theorem escapeFree_upper (h : EscapeFree s) : EscapeFree (Text.upper s) :=
  fun hmem => h ((Text.mem_upper_iff isBeforeDigits_escapeChar).1 hmem)

theorem escapeFree_capitals (h : EscapeFree s) : EscapeFree (Manner.capitals s) := by
  refine escapeFree_map fun c hc heq => ?_
  have hsame := (Text.mapCase_eq_iff isBeforeDigits_escapeChar).1 heq.symm
  exact h (hsame ▸ hc)

/-! ## The parts of a moment -/

theorem escapeFree_getD {names : List Text} (h : ∀ name ∈ names, EscapeFree name) (i : Nat) :
    EscapeFree (names.getD i []) := by
  rw [List.getD_eq_getElem?_getD]
  cases hname : names[i]? with
  | none => exact escapeFree_nil
  | some name => exact h name (List.mem_of_getElem? hname)

theorem escapeFree_weekdayName (m : Moment) : EscapeFree m.weekdayName :=
  escapeFree_getD (by decide) _

theorem escapeFree_monthName (m : Moment) : EscapeFree m.monthName :=
  escapeFree_getD (by decide) _

/-- A text with a filler before it, without escape characters. -/
def Filled.IsEscapeFree (f : Filled) : Prop :=
  escapeChar ≠ f.filler ∧ EscapeFree f.body

theorem Filled.IsEscapeFree.text (h : filled.IsEscapeFree) : EscapeFree filled.text :=
  escapeFree_append.2 ⟨escapeFree_fill h.1 _, h.2⟩

/-- A part of a moment without escape characters, in all forms of its word. -/
def Part.IsEscapeFree : Part → Prop
  | .number _ _ => True
  | .aligned _ _ => True
  | .word w => EscapeFree w.plain ∧ EscapeFree w.capitals ∧ EscapeFree w.swapped
  | .zone name => EscapeFree name

/-- The parts of a moment are numbers, names and fixed words. -/
theorem isEscapeFree_parts? {letter : Char} {parts : List Part}
    (h : m.parts? letter = some parts) : ∀ part ∈ parts, part.IsEscapeFree := by
  have hday := escapeFree_weekdayName m
  have hmonth := escapeFree_monthName m
  have hhalf : EscapeFree m.half.1 ∧ EscapeFree m.half.2 := by
    unfold Moment.half
    split_ifs <;> decide
  unfold Moment.parts? at h
  split at h <;> cases h <;>
    simp [Part.IsEscapeFree, Word.name, Word.fixed, hday, hday.take, hmonth, hmonth.take, hhalf,
      escapeFree_upper, escapeFree_ofInt, escapeChar]

theorem isEscapeFree_number (manner : Manner) {filler : Char} (hfiller : escapeChar ≠ filler)
    (digits n : Nat) : (manner.number filler digits n).IsEscapeFree := by
  have hdigits := escapeFree_ofNat n
  unfold Manner.number
  simp only
  split
  · exact ⟨(by decide : escapeChar ≠ '0'), hdigits⟩
  · exact ⟨(by decide : escapeChar ≠ ' '), hdigits⟩
  · exact ⟨(by decide : escapeChar ≠ ' '), hdigits⟩
  · exact ⟨hfiller, hdigits⟩

theorem isEscapeFree_filled (manner : Manner) (h : EscapeFree s) :
    (manner.filled s).IsEscapeFree := by
  refine ⟨?_, h⟩
  change escapeChar ≠ if manner.padding? = some '0' then '0' else ' '
  split_ifs <;> decide

theorem isEscapeFree_part (manner : Manner) (h : part.IsEscapeFree) :
    (manner.fill part).IsEscapeFree := by
  cases part with
  | number digits n => exact isEscapeFree_number manner (by decide) digits n
  | aligned digits n => exact isEscapeFree_number manner (by decide) digits n
  | word w =>
      refine isEscapeFree_filled manner ?_
      unfold Manner.form
      split_ifs
      · exact h.2.2
      · exact h.2.1
      · exact h.1
  | zone name =>
      rw [Manner.fill]
      split_ifs
      · exact ⟨(by decide : escapeChar ≠ ' '), h⟩
      · exact isEscapeFree_filled manner h

/-! ## Formats for times -/

theorem escapeFree_simpleText (m : Moment) (h : EscapeFree s) : EscapeFree (m.simpleText s) := by
  fun_induction Moment.simpleText m s with
  | case1 => exact h
  | case2 => exact h
  | case3 letter rest ih =>
      obtain ⟨-, -, hrest⟩ := (escapeFree_cons.trans (and_congr_right' escapeFree_cons)).1 h
      refine escapeFree_append.2 ⟨escapeFree_flatMap fun part hpart => ?_, ih hrest⟩
      cases hparts : m.parts? letter with
      | none =>
          rw [hparts] at hpart
          cases hpart
      | some parts =>
          rw [hparts] at hpart
          exact (isEscapeFree_part .plain (isEscapeFree_parts? hparts part hpart)).text
  | case4 c letter rest hc ih =>
      obtain ⟨hne, hrest⟩ := escapeFree_cons.1 h
      exact escapeFree_cons.2 ⟨hne, ih hrest⟩

theorem escapeFree_cased (manner : Manner) (h : EscapeFree s) : EscapeFree (manner.cased s) := by
  unfold Manner.cased
  split_ifs
  · exact escapeFree_capitals h
  · exact h

theorem isEscapeFree_unknown {letter : Option Char} (hwritten : EscapeFree manner.written)
    (hletter : EscapeFree letter.toList) : (manner.unknown letter).IsEscapeFree := by
  have hdirective : EscapeFree (manner.directive letter) := by
    unfold Manner.directive
    split_ifs
    · decide
    · exact escapeFree_append.2 ⟨escapeFree_cons.2 ⟨by decide, hwritten⟩, hletter⟩
  unfold Manner.unknown
  simp only
  split_ifs
  · exact isEscapeFree_filled manner (escapeFree_capitals hdirective)
  · exact isEscapeFree_filled manner (escapeFree_cased manner hdirective)

theorem escapeFree_shorthand? {letter : Char} (h : Moment.shorthand? letter = some format) :
    EscapeFree format := by
  unfold Moment.shorthand? at h
  split at h <;> cases h <;> decide

theorem isEscapeFree_directive (m : Moment) {letter : Char}
    (hwritten : EscapeFree manner.written) (hletter : escapeChar ≠ letter) :
    ∀ piece ∈ m.directive manner letter, piece.IsEscapeFree := by
  have hunknown : (manner.unknown (some letter)).IsEscapeFree :=
    isEscapeFree_unknown hwritten (escapeFree_cons.2 ⟨hletter, escapeFree_nil⟩)
  unfold Moment.directive
  split_ifs
  · exact List.forall_mem_singleton.2 hunknown
  · split
    · rename_i parts hparts
      refine List.forall_mem_map.2 fun part hpart => ?_
      exact isEscapeFree_part manner (isEscapeFree_parts? hparts part hpart)
    · rename_i hshort
      have htext := escapeFree_simpleText m (escapeFree_shorthand? hshort)
      exact List.forall_mem_singleton.2
        (isEscapeFree_filled manner (escapeFree_cased manner htext))
    · exact List.forall_mem_singleton.2 hunknown

theorem isEscapeFree_timePieces (m : Moment) (h : EscapeFree format) :
    ∀ piece ∈ TimeFormat.pieces m format, piece.IsEscapeFree := by
  have hmanner {s : Text} (hs : EscapeFree s) :
      EscapeFree (TimeFormat.takeManner s).1.written ∧ EscapeFree (TimeFormat.takeManner s).2 := by
    rw [← escapeFree_append, TimeFormat.takeManner_append]
    exact hs
  fun_induction TimeFormat.pieces m format with
  | case1 => exact List.forall_mem_nil _
  | case2 c rest hc ih =>
      obtain ⟨hne, hrest⟩ := escapeFree_cons.1 h
      refine List.forall_mem_cons.2 ⟨?_, ih hrest⟩
      exact ⟨(by decide : escapeChar ≠ ' '), escapeFree_cons.2 ⟨hne, escapeFree_nil⟩⟩
  | case3 c rest hc manner htaken =>
      have hwritten := hmanner (escapeFree_cons.1 h).2
      rw [htaken] at hwritten
      exact List.forall_mem_singleton.2 (isEscapeFree_unknown hwritten.1 escapeFree_nil)
  | case4 c rest hc manner letter after htaken ih =>
      have hwritten := hmanner (escapeFree_cons.1 h).2
      rw [htaken] at hwritten
      obtain ⟨hletter, hafter⟩ := escapeFree_cons.1 hwritten.2
      exact List.forall_mem_append.2
        ⟨isEscapeFree_directive m hwritten.1 hletter, ih hafter⟩

/-- The text of a moment has an escape character only if its format has one. -/
theorem escapeFree_text (m : Moment) (h : EscapeFree format) : EscapeFree (m.text format) := by
  unfold Moment.text
  simp only
  split_ifs
  · exact escapeFree_flatMap fun piece hpiece => (isEscapeFree_timePieces m h piece hpiece).text
  · exact escapeFree_nil

theorem escapeFree_plain (m : Moment) : EscapeFree m.plain := by
  simp only [Moment.plain, escapeFree_append]
  exact ⟨⟨escapeFree_text m (by decide), by decide⟩, escapeFree_padded 3 _⟩

theorem escapeFree_timeText {f : Formatter} {time : Text}
    (hformat : ∀ format, f.timeFormat = some format → EscapeFree format)
    (h : f.timeText m = .ok time) : EscapeFree time := by
  unfold Formatter.timeText at h
  split at h
  · cases h
    exact escapeFree_plain m
  · rename_i format hsome
    split_ifs at h
    · cases h
      exact escapeFree_plain m
    · cases h
      exact escapeFree_text m (hformat format hsome)

end Phrasebook.Log
