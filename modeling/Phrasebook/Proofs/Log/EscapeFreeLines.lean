import Phrasebook.Proofs.Log.Formatting
import Phrasebook.Proofs.Log.TimeTexts
import Phrasebook.Proofs.Text.Pieces

/-!
# Lines without escape characters

The text between the directives of a layout stands in the layout, and what a directive shows is a
field of the record or the record as a whole. So the line of a message has no escape character if
the layout, the format for times and the message have none, and none of the numbers of the message
is the code of one (`escapeFree_line`).
-/

namespace Phrasebook.Log

/-! ## Values without escape characters -/

section Values

variable {s : Text}

theorem isEscapeFree_null : IsEscapeFree .null where
  plain := by decide
  literal := by decide
  code _ h := by cases h

theorem isEscapeFree_text (h : EscapeFree s) : IsEscapeFree (.text s) where
  plain := h
  literal := escapeFree_quoted s
  code _ h := by cases h

theorem isEscapeFree_int {n : Int} (h : n ≠ 27) : IsEscapeFree (.integer n) where
  plain := escapeFree_ofInt n
  literal := escapeFree_ofInt n
  code m hm := by
    cases hm
    exact h

theorem isEscapeFree_textOrNull {text : Option Text} (h : ∀ s ∈ text, EscapeFree s) :
    IsEscapeFree (textOrNull text) := by
  cases text with
  | none => exact isEscapeFree_null
  | some s => exact isEscapeFree_text (h s rfl)

theorem isEscapeFree_numberOrNull {number : Option Nat} (h : number ≠ some 27) :
    IsEscapeFree (numberOrNull number) := by
  cases number with
  | none => exact isEscapeFree_null
  | some n =>
      refine isEscapeFree_int fun heq => h ?_
      rw [Int.ofNat.inj heq]

theorem escapeFree_decimalText (d : Binary64.Decimal) : EscapeFree d.text := by
  have hdigits : EscapeFree (Binary64.significant d) :=
    ((escapeFree_ofNat d.digits).reverse.dropWhile _).reverse
  have hzeros (n : Nat) : EscapeFree (Text.fill n '0') := escapeFree_fill (by decide) n
  have hsize (n : Nat) : EscapeFree (Text.ofNat n) := escapeFree_ofNat n
  have hsign (power : Int) : EscapeFree (if power < 0 then ['-'] else ['+']) := by
    split_ifs <;> decide
  have hfraction : EscapeFree (if (Binary64.significant d).length ≤ 1 then []
      else '.' :: (Binary64.significant d).drop 1) := by
    split_ifs
    · exact escapeFree_nil
    · exact escapeFree_cons.2 ⟨by decide, hdigits.drop 1⟩
  unfold Binary64.Decimal.text
  simp only
  split
  · split
    · exact escapeFree_append.2 ⟨escapeFree_append.2 ⟨by decide, hzeros _⟩, hdigits⟩
    · split <;> simp only [escapeFree_append]
      · exact ⟨⟨hdigits, hzeros _⟩, by decide⟩
      · exact ⟨⟨hdigits.take _, by decide⟩, hdigits.drop _⟩
  · simp only [escapeFree_append]
    exact ⟨⟨⟨⟨⟨hdigits.take 1, hfraction⟩, by decide⟩, hsign _⟩, hzeros _⟩, hsize _⟩

theorem escapeFree_floatText (x : Binary64) : EscapeFree x.text := by
  have hsign (negative : Bool) : EscapeFree (if negative then ['-'] else []) := by
    split_ifs <;> decide
  cases x with
  | nan => decide
  | infinity negative => exact escapeFree_append.2 ⟨hsign negative, by decide⟩
  | finite negative mantissa exponent =>
      refine escapeFree_append.2 ⟨hsign negative, ?_⟩
      split_ifs
      · decide
      · exact escapeFree_decimalText _

theorem isEscapeFree_ofFloat (x : Binary64) : IsEscapeFree (.float x) where
  plain := escapeFree_floatText x
  literal := escapeFree_floatText x
  code _ h := by cases h

theorem escapeFree_join {separator : Text} {items : List Text} (hseparator : EscapeFree separator)
    (hitems : ∀ item ∈ items, EscapeFree item) : EscapeFree (Text.join separator items) := by
  intro hmem
  obtain hmem | ⟨item, hitem, hmem⟩ := Text.mem_join hmem
  · exact hseparator hmem
  · exact hitems item hitem hmem

theorem escapeFree_entryLiterals {entries : List (Text × Value)}
    (h : ∀ entry ∈ entries, EscapeFree entry.2.literal) :
    ∀ item ∈ Value.entryLiterals entries, EscapeFree item := by
  induction entries with
  | nil => exact List.forall_mem_nil _
  | cons entry rest ih =>
      obtain ⟨hentry, hrest⟩ := List.forall_mem_cons.1 h
      refine List.forall_mem_cons.2 ⟨?_, ih hrest⟩
      simp only [escapeFree_append]
      exact ⟨⟨escapeFree_quoted entry.1, by decide⟩, hentry⟩

theorem isEscapeFree_mapping {entries : List (Text × Value)}
    (h : ∀ entry ∈ entries, IsEscapeFree entry.2) : IsEscapeFree (.mapping entries) := by
  have hliteral : EscapeFree (Value.mapping entries).literal := by
    have hitems := escapeFree_entryLiterals fun entry hentry => (h entry hentry).literal
    simp only [Value.literal, Value.bracketed, escapeFree_append]
    exact ⟨⟨by decide, escapeFree_join (by decide) hitems⟩, by decide⟩
  exact ⟨hliteral, hliteral, fun _ hn => by cases hn⟩

end Values

/-! ## Records without escape characters -/

/-- A message without escape characters, none of whose numbers is the code of one. -/
structure Entry.IsEscapeFree (e : Entry) : Prop where
  name : EscapeFree e.name
  level : e.level ≠ 27
  msg : EscapeFree e.msg
  args : Log.IsEscapeFree e.args
  message : EscapeFree e.message
  pathname : EscapeFree e.origin.pathname
  line : (e.origin.line : Nat) ≠ 27
  function : ∀ name ∈ e.origin.function, EscapeFree name
  thread : e.instant.thread ≠ some 27
  threadName : ∀ name ∈ e.instant.threadName, EscapeFree name
  processName : ∀ name ∈ e.instant.processName, EscapeFree name
  process : e.instant.process ≠ some 27

/-- A record without escape characters in its fields. -/
def Record.IsEscapeFree (r : Record) : Prop :=
  ∀ field ∈ r.fields, Log.IsEscapeFree field.2

section Records

variable {r : Record} {name : Text} {value : Value}

theorem stem_subset (name : Text) : Path.stem name ⊆ name := by
  unfold Path.stem
  split
  · exact List.Subset.refl _
  · rename_i c front hfront
    split_ifs
    · exact List.Subset.refl _
    · intro d hd
      have hmem : d ∈ name.reverse.dropWhile (· != '.') := by
        rw [hfront]
        exact List.mem_cons_of_mem _ (List.mem_reverse.1 hd)
      exact List.mem_reverse.1 (List.dropWhile_subset _ hmem)

theorem escapeFree_filename (h : EscapeFree r.origin.pathname) : EscapeFree r.filename :=
  (h.reverse.takeWhile _).reverse

/-- A record is free of escape characters if its message is, and the name of its level and the time
that was left on it. -/
theorem isEscapeFree_record (he : r.toEntry.IsEscapeFree) (hlevel : EscapeFree r.levelName)
    (htime : ∀ time ∈ r.shownTime, EscapeFree time) : r.IsEscapeFree := by
  have hfilename := escapeFree_filename he.pathname
  have hline : (r.origin.line : Int) ≠ 27 := fun heq => he.line (Int.ofNat.inj heq)
  have hleft : ∀ field ∈ r.fieldsLeft, Log.IsEscapeFree field.2 := by
    intro field hfield
    rcases List.mem_append.1 hfield with hmessage | hshown
    · split_ifs at hmessage
      · rw [List.mem_singleton.1 hmessage]
        exact isEscapeFree_text he.message
      · cases hmessage
    · obtain ⟨time, hmem, rfl⟩ := Option.map_eq_some_iff.1 (Option.mem_toList.1 hshown)
      exact isEscapeFree_text (htime time hmem)
  have hbehind : ∀ field ∈ r.fieldsBehind, Log.IsEscapeFree field.2 := by
    simp only [Record.fieldsBehind, List.forall_mem_cons, List.not_mem_nil, false_imp_iff,
      implies_true, and_true]
    exact ⟨isEscapeFree_int he.level, isEscapeFree_text he.pathname, isEscapeFree_text hfilename,
      isEscapeFree_text (hfilename.of_subset (stem_subset _)), isEscapeFree_null,
      isEscapeFree_null, isEscapeFree_null, isEscapeFree_int hline,
      isEscapeFree_textOrNull he.function, isEscapeFree_ofFloat _, isEscapeFree_ofFloat _,
      isEscapeFree_ofFloat _, isEscapeFree_numberOrNull he.thread,
      isEscapeFree_textOrNull he.threadName, isEscapeFree_textOrNull he.processName,
      isEscapeFree_numberOrNull he.process⟩
  have hbefore : ∀ field ∈ r.fieldsBefore, Log.IsEscapeFree field.2 := by
    simp only [Record.fieldsBefore, List.forall_mem_cons, List.not_mem_nil, false_imp_iff,
      implies_true, and_true]
    exact ⟨isEscapeFree_text he.name, isEscapeFree_text he.msg, he.args⟩
  exact List.forall_mem_append.2 ⟨hbefore, List.forall_mem_cons.2
    ⟨isEscapeFree_text hlevel, List.forall_mem_append.2 ⟨hbehind, hleft⟩⟩⟩

theorem Record.IsEscapeFree.field (hr : r.IsEscapeFree) (h : r.field? name = some value) :
    Log.IsEscapeFree value :=
  hr (name, value) (Dict.mem_of_get? h)

theorem Record.IsEscapeFree.whole (hr : r.IsEscapeFree) : Log.IsEscapeFree r.whole :=
  isEscapeFree_mapping hr

end Records

/-! ## Lines -/

section Lines

variable {r : Record} {layout line : Text} {ps : List Piece} {whole : Option Value}

/-- The text between the directives of a layout without escape characters has none. -/
theorem escapeFree_piecesFrom {size : Nat} (h : EscapeFree layout) :
    ∀ s, Piece.text s ∈ piecesFrom size layout → EscapeFree s := by
  fun_induction piecesFrom size layout with
  | case1 => simp
  | case2 c rest hc ih =>
      obtain ⟨hne, hrest⟩ := escapeFree_cons.1 h
      intro s hs
      obtain heq | hs := List.mem_cons.1 hs
      · cases heq
        exact escapeFree_cons.2 ⟨hne, escapeFree_nil⟩
      · exact ih hrest s hs
  | case3 c hc after ih =>
      obtain ⟨-, hrest⟩ := escapeFree_cons.1 h
      intro s hs
      obtain heq | hs := List.mem_cons.1 hs
      · cases heq
        decide
      · exact ih (escapeFree_cons.1 hrest).2 s hs
  | case4 => simp
  | case5 c hc named name tail htaken found ih =>
      obtain ⟨-, hrest⟩ := escapeFree_cons.1 h
      have htail : EscapeFree tail := by
        have hnamed := (escapeFree_cons.1 hrest).2
        rw [← takeName_append htaken, escapeFree_append, escapeFree_cons] at hnamed
        exact hnamed.2.2
      intro s hs
      obtain heq | hs := List.mem_cons.1 hs
      · cases heq
      · exact ih (htail.of_subset (takeDirective_suffix _ _ _).subset) s hs
  | case6 c hc rest hpercent hnamed found ih =>
      obtain ⟨-, hrest⟩ := escapeFree_cons.1 h
      intro s hs
      obtain heq | hs := List.mem_cons.1 hs
      · cases heq
      · exact ih (hrest.of_subset (takeDirective_suffix _ _ _).subset) s hs

theorem escapeFree_showField (hr : r.IsEscapeFree) (hwhole : ∀ v ∈ whole, IsEscapeFree v)
    {d : Directive} (h : showField r whole d = .ok line) : EscapeFree line := by
  unfold showField at h
  split at h
  · exact escapeFree_of_fill hwhole h
  · split at h
    · cases h
    · rename_i value hvalue
      refine escapeFree_of_fill (fun v hv => ?_) h
      cases hv
      exact hr.field hvalue

theorem escapeFree_fillPieces (hr : r.IsEscapeFree) (hwhole : ∀ v ∈ whole, IsEscapeFree v)
    (htexts : ∀ s, .text s ∈ ps → EscapeFree s) (h : fillPieces r whole ps = .ok line) :
    EscapeFree line := by
  induction ps generalizing whole line with
  | nil =>
      cases h
      exact escapeFree_nil
  | cons piece rest ih =>
      have hrest : ∀ s, .text s ∈ rest → EscapeFree s :=
        fun s hs => htexts s (List.mem_cons_of_mem _ hs)
      cases piece with
      | text s =>
          rw [fillPieces] at h
          obtain ⟨after, hafter, hline⟩ := exists_of_bind_eq_ok h
          cases hline
          exact escapeFree_append.2 ⟨htexts s List.mem_cons_self, ih hwhole hrest hafter⟩
      | unclosedName => cases h
      | directive d =>
          rw [fillPieces_directive] at h
          obtain ⟨shown, hshown, hline⟩ := exists_of_bind_eq_ok h
          cases hafter : fillPieces r none rest with
          | error e =>
              rw [hafter] at hline
              cases hline
          | ok after =>
              rw [hafter] at hline
              cases hline
              exact escapeFree_append.2 ⟨escapeFree_showField hr hwhole hshown,
                ih (fun _ hv => by cases hv) hrest hafter⟩

theorem escapeFree_lineText (hr : r.IsEscapeFree) (hlayout : EscapeFree layout)
    (h : lineText layout r = .ok line) : EscapeFree line := by
  refine escapeFree_fillPieces hr (fun v hv => ?_) (escapeFree_piecesFrom hlayout) h
  cases hv
  exact hr.whole

theorem escapeFree_levelName (level : Level) : EscapeFree (levelName level) := by
  unfold levelName
  split
  · rename_i name named hfound
    exact (by decide : ∀ entry ∈ levelNames, EscapeFree entry.1) _
      (List.mem_of_find?_eq_some hfound)
  · exact escapeFree_append.2 ⟨by decide, escapeFree_ofInt level⟩

/-- The plain line of a message has no escape character if neither the message nor the formatter has
one. -/
theorem escapeFree_line {f : Formatter} {e : Entry} (he : e.IsEscapeFree)
    (hlayout : EscapeFree f.layout)
    (hformat : ∀ format, f.timeFormat = some format → EscapeFree format)
    (h : (f.line (Record.of e)).1 = .ok line) : EscapeFree line := by
  rw [Formatter.line_eq] at h
  obtain ⟨shown, -, hline⟩ := exists_of_bind_eq_ok h
  refine escapeFree_lineText ?_ hlayout hline
  refine isEscapeFree_record he (escapeFree_levelName e.level) fun time htime => ?_
  obtain htext | hleft := Formatter.mem_shownTime_leave htime
  · exact escapeFree_timeText hformat htext
  · cases hleft

end Lines

end Phrasebook.Log
