import Phrasebook.Proofs.Resources.SoleFile
import Phrasebook.Proofs.Resources.Variants

/-!
# The questions of a load

Each tag of a locale has its turn: the directory is asked for, then the file of the tag, then, for a
tag of two characters, the names in the directory, each question only if the one before calls for
it, and what is found is read. `Layout.Turn` and `Layout.Course` tell the questions of a turn and of
all turns from the answers alone, and they are what a load asks. So a load reads a file only when it
has just been reported, reads three files at most, and asks nothing after the first error.

A directory that is there for one tag may be gone for the next one. `Layout.mergeAmid` gives each
turn a file system of its own, which is all that changing files can do, since no question comes
twice in a turn.
-/

namespace Phrasebook

/-- The error that a result is, if it is one. -/
def failure? {ε α : Type} : Except ε α → Option ε
  | .error e => some e
  | .ok _ => none

/-- Whether a question is for the text of a file. -/
def FileCall.isRead : FileCall → Bool
  | .read _ => true
  | _ => false

theorem failure?_eq_none_iff {ε α : Type} {x : Except ε α} :
    failure? x = none ↔ ∃ a, x = .ok a := by
  cases x <;> simp [failure?]

theorem failure?_eq_some_iff {ε α : Type} {x : Except ε α} {e : ε} :
    failure? x = some e ↔ x = .error e := by
  cases x <;> simp [failure?]

theorem failure?_map {ε α β : Type} (f : α → β) (x : Except ε α) :
    failure? (x.map f) = failure? x := by
  cases x <;> rfl

namespace Resources

variable {l : Layout} {fs : FileSystem} {source tag : Text} {calls : List FileCall}

/-! ## The turn of a tag -/

/-- The turn of a tag: the questions that are put while its layer is merged, in order, and the error
that it ends with, if it does. -/
inductive Layout.Turn [Platform] (l : Layout) (fs : FileSystem) (source tag : Text) :
    List FileCall → Option LoadError → Prop
  /-- Whether the directory is there cannot be found out. -/
  | directoryFails {e : FileError} (hdirectory : fs.present (l.directory source) = .error e) :
      Turn l fs source tag [.present (l.directory source)] (some (.file e))
  /-- There is no directory. -/
  | noDirectory (hdirectory : fs.present (l.directory source) = .ok false) :
      Turn l fs source tag [.present (l.directory source)] none
  /-- The search for a file fails. -/
  | searchFails {calls : List FileCall} {e : LoadError}
      (hdirectory : fs.present (l.directory source) = .ok true)
      (hsearch : Search fs (l.directory source) (stem source) tag calls (.error e)) :
      Turn l fs source tag (.present (l.directory source) :: calls) (some e)
  /-- The search finds no file. -/
  | noFile {calls : List FileCall} (hdirectory : fs.present (l.directory source) = .ok true)
      (hsearch : Search fs (l.directory source) (stem source) tag calls (.ok none)) :
      Turn l fs source tag (.present (l.directory source) :: calls) none
  /-- The file that is found is read. -/
  | file {calls : List FileCall} {path : Text}
      (hdirectory : fs.present (l.directory source) = .ok true)
      (hsearch : Search fs (l.directory source) (stem source) tag calls (.ok (some path))) :
      Turn l fs source tag (.present (l.directory source) :: (calls ++ [.read path]))
        (failure? (parseFile path (fs.read path)).result)

variable {failure : Option LoadError}

theorem Layout.exists_turn [Platform] (l : Layout) (fs : FileSystem) (source tag : Text) :
    ∃ calls failure, l.Turn fs source tag calls failure := by
  cases hdirectory : fs.present (l.directory source) with
  | error e => exact ⟨_, _, .directoryFails hdirectory⟩
  | ok there =>
      cases there with
      | false => exact ⟨_, _, .noDirectory hdirectory⟩
      | true =>
          obtain ⟨calls, found, hsearch⟩ :=
            exists_search fs (l.directory source) (stem source) tag
          cases found with
          | error e => exact ⟨_, _, .searchFails hdirectory hsearch⟩
          | ok file =>
              cases file with
              | none => exact ⟨_, _, .noFile hdirectory hsearch⟩
              | some path => exact ⟨_, _, .file hdirectory hsearch⟩

/-- The turn of a tag is what merging its layer does, whatever is below it. -/
theorem Layout.Turn.mergeLayer_eq [Platform] (h : l.Turn fs source tag calls failure)
    (below : Entries) :
    (l.mergeLayer fs source below tag).journal.calls = calls ∧
      failure? (l.mergeLayer fs source below tag).result = failure := by
  unfold mergeLayer
  dsimp only
  cases h with
  | directoryFails hdirectory =>
      rw [hdirectory]
      exact ⟨rfl, rfl⟩
  | noDirectory hdirectory =>
      rw [hdirectory]
      exact ⟨rfl, rfl⟩
  | searchFails hdirectory hsearch =>
      obtain ⟨rfl, hfound⟩ := hsearch.findFile_eq
      rw [hdirectory, Traced.journal_bind_of_ok (a := true) rfl,
        Traced.result_bind_of_ok (a := true) rfl, if_pos rfl, Journal.append_calls,
        Traced.journal_bind_of_error hfound,
        Traced.result_bind_eq_error_iff.2 (.inl hfound)]
      exact ⟨rfl, rfl⟩
  | noFile hdirectory hsearch =>
      obtain ⟨rfl, hfound⟩ := hsearch.findFile_eq
      rw [hdirectory, Traced.journal_bind_of_ok (a := true) rfl,
        Traced.result_bind_of_ok (a := true) rfl, if_pos rfl, Journal.append_calls,
        Traced.journal_bind_of_ok hfound, Traced.result_bind_of_ok hfound, Journal.append_calls]
      exact ⟨congrArg _ (List.append_nil _), rfl⟩
  | @file calls path hdirectory hsearch =>
      obtain ⟨rfl, hfound⟩ := hsearch.findFile_eq
      rw [hdirectory, Traced.journal_bind_of_ok (a := true) rfl,
        Traced.result_bind_of_ok (a := true) rfl, if_pos rfl, Journal.append_calls,
        Traced.journal_bind_of_ok hfound, Traced.result_bind_of_ok hfound, Journal.append_calls]
      rw [← result_readFile]
      dsimp only
      cases hread : (readFile fs path).result with
      | error e =>
          rw [Traced.journal_bind_of_error hread, Traced.result_bind_eq_error_iff.2 (.inl hread),
            calls_readFile]
          exact ⟨rfl, rfl⟩
      | ok entries =>
          rw [Traced.journal_bind_of_ok hread, Traced.result_bind_of_ok hread,
            Journal.append_calls, calls_readFile]
          exact ⟨rfl, rfl⟩

/-! ## What a turn asks -/

/-- The error that a question comes to, if it does. Reading a file comes to an error also if the
file holds no resources. -/
def errorOf? [Platform] (fs : FileSystem) : FileCall → Option LoadError
  | .present path => failure? ((fs.present path).mapError .file)
  | .list path => failure? ((fs.list path).mapError .file)
  | .read path => failure? (parseFile path (fs.read path)).result

/-- The last question before a file is read has reported the file: it is there, or its name is one
of those listed in the directory. -/
inductive Layout.Reports (l : Layout) (fs : FileSystem) (source path : Text) : FileCall → Prop
  | present (h : fs.present path = .ok true) : Reports l fs source path (.present path)
  | listed {names : List Text} {name : Text} (hlist : fs.list (l.directory source) = .ok names)
      (hname : name ∈ names) (hpath : path = Path.join (l.directory source) name) :
      Reports l fs source path (.list (l.directory source))

section

variable {directory stem : Text} {found : Except LoadError (Option Text)}

theorem Search.isRead_eq_false (h : Search fs directory stem tag calls found) :
    ∀ call ∈ calls, call.isRead = false := by
  cases h <;> simp [FileCall.isRead]

/-- A search ends with the first question that comes to an error. -/
theorem Search.exists_last [Platform] (h : Search fs directory stem tag calls found) :
    ∃ front last, calls = front ++ [last] ∧
      (∀ call ∈ front, errorOf? fs call = none) ∧
      errorOf? fs last = failure? found := by
  cases h with
  | own hown => exact ⟨[], _, rfl, nofun, by rw [errorOf?, hown]; rfl⟩
  | noRegions hown => exact ⟨[], _, rfl, nofun, by rw [errorOf?, hown]; rfl⟩
  | ownFails hown => exact ⟨[], _, rfl, nofun, by rw [errorOf?, hown]; rfl⟩
  | variant hown hlength hlist =>
      refine ⟨[_], _, rfl, ?_, by rw [errorOf?, hlist]; rfl⟩
      rw [List.forall_mem_singleton, errorOf?, hown]
      rfl
  | noVariant hown hlength hlist =>
      refine ⟨[_], _, rfl, ?_, by rw [errorOf?, hlist]; rfl⟩
      rw [List.forall_mem_singleton, errorOf?, hown]
      rfl
  | listFails hown hlength hlist =>
      refine ⟨[_], _, rfl, ?_, by rw [errorOf?, hlist]; rfl⟩
      rw [List.forall_mem_singleton, errorOf?, hown]
      rfl

/-- The last question of a search reports the file that is found. -/
theorem Search.exists_report {path : Text}
    (h : Search fs (l.directory source) stem tag calls (.ok (some path))) :
    ∃ front last, calls = front ++ [last] ∧ l.Reports fs source path last := by
  cases h with
  | own hown => exact ⟨[], _, rfl, .present hown⟩
  | variant hown hlength hlist hleast => exact ⟨[_], _, rfl, .listed hlist hleast.listed rfl⟩

end

/-- No question is put twice in a turn. -/
theorem Layout.Turn.nodup [Platform] (h : l.Turn fs source tag calls failure) : calls.Nodup := by
  have hne : l.directory source ≠ Path.join (l.directory source) (fileName (stem source) tag) :=
    (Path.join_ne_self (fileName_ne_nil _ _) (head?_fileName (slash_not_mem_stem source) _)).symm
  cases h with
  | directoryFails => exact List.nodup_singleton _
  | noDirectory => exact List.nodup_singleton _
  | searchFails hdirectory hsearch => cases hsearch <;> simp [hne]
  | noFile hdirectory hsearch => cases hsearch <;> simp [hne]
  | file hdirectory hsearch => cases hsearch <;> simp [hne]

/-- A turn reads no file, or it ends with a read of the file that was just reported. -/
theorem Layout.Turn.read_cases [Platform] (h : l.Turn fs source tag calls failure) :
    (∀ call ∈ calls, call.isRead = false) ∨
      ∃ front last path, calls = front ++ [last, .read path] ∧
        (∀ call ∈ front ++ [last], call.isRead = false) ∧ l.Reports fs source path last := by
  cases h with
  | directoryFails => exact .inl (by simp [FileCall.isRead])
  | noDirectory => exact .inl (by simp [FileCall.isRead])
  | searchFails hdirectory hsearch =>
      exact .inl (List.forall_mem_cons.2 ⟨rfl, hsearch.isRead_eq_false⟩)
  | noFile hdirectory hsearch =>
      exact .inl (List.forall_mem_cons.2 ⟨rfl, hsearch.isRead_eq_false⟩)
  | file hdirectory hsearch =>
      obtain ⟨front, last, rfl, hreports⟩ := hsearch.exists_report
      refine .inr ⟨.present (l.directory source) :: front, last, _, by simp, ?_, hreports⟩
      exact List.forall_mem_cons.2 ⟨rfl, hsearch.isRead_eq_false⟩

/-- A turn ends with the first question that comes to an error. -/
theorem Layout.Turn.exists_last [Platform] (h : l.Turn fs source tag calls failure) :
    ∃ front last, calls = front ++ [last] ∧
      (∀ call ∈ front, errorOf? fs call = none) ∧
      errorOf? fs last = failure := by
  have hthere : fs.present (l.directory source) = .ok true →
      errorOf? fs (.present (l.directory source)) = none := by
    intro h
    rw [errorOf?, h]
    rfl
  cases h with
  | directoryFails hdirectory =>
      exact ⟨[], _, rfl, nofun, by rw [errorOf?, hdirectory]; rfl⟩
  | noDirectory hdirectory =>
      exact ⟨[], _, rfl, nofun, by rw [errorOf?, hdirectory]; rfl⟩
  | searchFails hdirectory hsearch =>
      obtain ⟨front, last, rfl, hfront, hlast⟩ := hsearch.exists_last
      exact ⟨_ :: front, last, rfl, List.forall_mem_cons.2 ⟨hthere hdirectory, hfront⟩, hlast⟩
  | noFile hdirectory hsearch =>
      obtain ⟨front, last, rfl, hfront, hlast⟩ := hsearch.exists_last
      exact ⟨_ :: front, last, rfl, List.forall_mem_cons.2 ⟨hthere hdirectory, hfront⟩, hlast⟩
  | @file calls path hdirectory hsearch =>
      obtain ⟨front, last, rfl, hfront, hlast⟩ := hsearch.exists_last
      refine ⟨_ :: (front ++ [last]), .read path, rfl,
        List.forall_mem_cons.2 ⟨hthere hdirectory, ?_⟩, rfl⟩
      intro call hcall
      rcases List.mem_append.1 hcall with hmem | hmem
      · exact hfront call hmem
      · rw [List.mem_singleton.1 hmem]
        exact hlast

/-! ## Courses -/

/-- The course of a load through some tags, for each of which there is a file system that answers
the questions of its turn: the questions with those who answer them, in order, and the error that
the course ends with, if it does. -/
inductive Layout.Course [Platform] (l : Layout) (source : Text) :
    List (FileSystem × Text) → List (FileSystem × FileCall) → Option LoadError → Prop
  /-- There is no tag left. -/
  | done : Course l source [] [] none
  /-- A turn ends with an error, and no other tag has its turn. -/
  | failed {fs : FileSystem} {tag : Text} {calls : List FileCall} {e : LoadError}
      (h : l.Turn fs source tag calls (some e)) (rest : List (FileSystem × Text)) :
      Course l source ((fs, tag) :: rest) (calls.map (fs, ·)) (some e)
  /-- A layer is merged, and the next tag has its turn. -/
  | merged {fs : FileSystem} {tag : Text} {calls : List FileCall} {rest : List (FileSystem × Text)}
      {asked : List (FileSystem × FileCall)} {failure : Option LoadError}
      (h : l.Turn fs source tag calls none) (hrest : Course l source rest asked failure) :
      Course l source ((fs, tag) :: rest) (calls.map (fs, ·) ++ asked) failure

/-- Merge the layers of some tags in order while the files may change, so that there is a file
system for each of them. No question is put twice in a turn, so what is answered in it fits one file
system always. -/
def Layout.mergeAmid [Platform] (l : Layout) (source : Text) (below : Entries) :
    List (FileSystem × Text) → Traced LoadError Entries
  | [] => pure below
  | (fs, tag) :: rest => do
    let below ← l.mergeLayer fs source below tag
    l.mergeAmid source below rest

/-- Where the files do not change, this is merging as it is always done. -/
theorem Layout.mergeAmid_const [Platform] (below : Entries) (tags : List Text) :
    l.mergeAmid source below (tags.map (fs, ·)) = l.mergeLayers fs source below tags := by
  induction tags generalizing below with
  | nil => rfl
  | cons tag rest ih => simp only [List.map_cons, mergeAmid, mergeLayers, ih]

variable {course : List (FileSystem × Text)} {asked : List (FileSystem × FileCall)}

theorem Layout.exists_course [Platform] (l : Layout) (source : Text)
    (course : List (FileSystem × Text)) :
    ∃ asked failure, l.Course source course asked failure := by
  induction course with
  | nil => exact ⟨[], none, .done⟩
  | cons step rest ih =>
      obtain ⟨fs, tag⟩ := step
      obtain ⟨calls, failure, hturn⟩ := l.exists_turn fs source tag
      obtain ⟨asked, later, hrest⟩ := ih
      cases failure with
      | none => exact ⟨_, _, .merged hturn hrest⟩
      | some e => exact ⟨_, _, .failed hturn rest⟩

/-- A course is what merging layers amid changes does. -/
theorem Layout.Course.mergeAmid_eq [Platform] (h : l.Course source course asked failure)
    (below : Entries) :
    (l.mergeAmid source below course).journal.calls = asked.map Prod.snd ∧
      failure? (l.mergeAmid source below course).result = failure := by
  induction h generalizing below with
  | done => exact ⟨rfl, rfl⟩
  | @failed fs tag calls e hturn rest =>
      obtain ⟨rfl, hfailure⟩ := hturn.mergeLayer_eq below
      have hresult := failure?_eq_some_iff.1 hfailure
      rw [mergeAmid, Traced.journal_bind_of_error hresult,
        Traced.result_bind_eq_error_iff.2 (.inl hresult)]
      exact ⟨by simp, rfl⟩
  | @merged fs tag calls rest asked failure hturn hrest ih =>
      obtain ⟨rfl, hfailure⟩ := hturn.mergeLayer_eq below
      obtain ⟨above, hresult⟩ := failure?_eq_none_iff.1 hfailure
      obtain ⟨hcalls, hlater⟩ := ih above
      rw [mergeAmid, Traced.journal_bind_of_ok hresult, Traced.result_bind_of_ok hresult,
        Journal.append_calls, hcalls, hlater]
      exact ⟨by simp, rfl⟩

theorem Layout.Turn.unique [Platform] {other : List FileCall} {failure' : Option LoadError}
    (h : l.Turn fs source tag calls failure) (hother : l.Turn fs source tag other failure') :
    calls = other ∧ failure = failure' := by
  obtain ⟨hcalls, hfailure⟩ := h.mergeLayer_eq []
  obtain ⟨hcalls', hfailure'⟩ := hother.mergeLayer_eq []
  exact ⟨hcalls.symm.trans hcalls', hfailure.symm.trans hfailure'⟩

/-- The answers determine the course. -/
theorem Layout.Course.unique [Platform] {other : List (FileSystem × FileCall)}
    {failure' : Option LoadError}
    (h : l.Course source course asked failure) (hother : l.Course source course other failure') :
    asked = other ∧ failure = failure' := by
  induction h generalizing other failure' with
  | done =>
      cases hother
      exact ⟨rfl, rfl⟩
  | failed hturn rest =>
      cases hother with
      | failed hturn' =>
          obtain ⟨rfl, hfailure⟩ := hturn.unique hturn'
          exact ⟨rfl, hfailure⟩
      | merged hturn' => cases (hturn.unique hturn').2
  | merged hturn hrest ih =>
      cases hother with
      | failed hturn' => cases (hturn.unique hturn').2
      | merged hturn' hrest' =>
          obtain ⟨rfl, -⟩ := hturn.unique hturn'
          obtain ⟨rfl, rfl⟩ := ih hrest'
          exact ⟨rfl, rfl⟩

/-! ## What a course asks -/

/-- Every question is put to a file system of the course. -/
theorem Layout.Course.exists_of_mem [Platform] (h : l.Course source course asked failure)
    {question : FileSystem × FileCall} (hmem : question ∈ asked) :
    ∃ tag, (question.1, tag) ∈ course := by
  induction h with
  | done => cases hmem
  | @failed fs tag calls e hturn rest =>
      obtain ⟨call, -, rfl⟩ := List.mem_map.1 hmem
      exact ⟨tag, List.mem_cons_self⟩
  | @merged fs tag calls rest asked failure hturn hrest ih =>
      rcases List.mem_append.1 hmem with hfirst | hlater
      · obtain ⟨call, -, rfl⟩ := List.mem_map.1 hfirst
        exact ⟨tag, List.mem_cons_self⟩
      · obtain ⟨other, hother⟩ := ih hlater
        exact ⟨other, List.mem_cons_of_mem _ hother⟩

/-- A turn reads one file at most. -/
theorem Layout.Turn.countP_isRead_le [Platform] (h : l.Turn fs source tag calls failure) :
    calls.countP FileCall.isRead ≤ 1 := by
  rcases h.read_cases with hnone | ⟨front, last, path, rfl, hnone, -⟩
  · rw [List.countP_eq_zero.2 fun call hcall => by simp [hnone call hcall]]
    exact Nat.zero_le 1
  · rw [List.append_cons, List.countP_append,
      List.countP_eq_zero.2 fun call hcall => by simp [hnone call hcall]]
    exact Nat.le_refl 1

theorem Layout.Course.countP_isRead_le [Platform] (h : l.Course source course asked failure) :
    asked.countP (·.2.isRead) ≤ course.length := by
  induction h with
  | done => exact Nat.le_refl 0
  | failed hturn rest =>
      have hcount := hturn.countP_isRead_le
      rw [List.countP_map, List.length_cons]
      exact Nat.le_trans hcount (by omega)
  | merged hturn hrest ih =>
      have hcount := hturn.countP_isRead_le
      rw [List.countP_append, List.countP_map, List.length_cons]
      exact Nat.le_trans (Nat.add_le_add hcount ih) (by omega)

/-- Right before a file is read in a turn it has been reported. -/
theorem Layout.Turn.exists_report [Platform] (h : l.Turn fs source tag calls failure)
    {before after : List FileCall} {path : Text} (hread : calls = before ++ .read path :: after) :
    ∃ earlier last, before = earlier ++ [last] ∧ l.Reports fs source path last := by
  rcases h.read_cases with hnone | ⟨front, last, other, rfl, hnone, hreports⟩
  · have hmem : .read path ∈ calls := hread ▸ List.mem_append_right before List.mem_cons_self
    cases hnone _ hmem
  · rw [List.append_cons] at hread
    rcases List.append_eq_append_iff.1 hread with ⟨mid, rfl, hlater⟩ | ⟨mid, hfirst, hlater⟩
    · cases mid with
      | nil =>
          cases hlater
          exact ⟨front, last, List.append_nil _, hreports⟩
      | cons call mid =>
          have hlength := congrArg List.length hlater
          simp at hlength
    · cases mid with
      | nil =>
          cases hlater
          exact ⟨front, last, by rw [hfirst, List.append_nil], hreports⟩
      | cons call mid =>
          obtain ⟨rfl, -⟩ := List.cons.inj hlater
          cases hnone _ (hfirst ▸ List.mem_append_right before List.mem_cons_self)

theorem Layout.Turn.exists_report_map [Platform] (h : l.Turn fs source tag calls failure)
    {before after : List (FileSystem × FileCall)} {other : FileSystem} {path : Text}
    (hread : calls.map (fs, ·) = before ++ (other, .read path) :: after) :
    ∃ earlier last, before = earlier ++ [(other, last)] ∧ l.Reports other source path last := by
  obtain ⟨front, back, rfl, rfl, hback⟩ := List.map_eq_append_iff.1 hread
  obtain ⟨call, back, rfl, hcall, -⟩ := List.map_eq_cons_iff.1 hback
  cases hcall
  obtain ⟨earlier, last, rfl, hreports⟩ := h.exists_report rfl
  exact ⟨earlier.map (fs, ·), last, by simp, hreports⟩

/-- Right before a file is read it has been reported by who is asked for it. -/
theorem Layout.Course.exists_report [Platform] (h : l.Course source course asked failure)
    {before after : List (FileSystem × FileCall)} {fs : FileSystem} {path : Text}
    (hread : asked = before ++ (fs, .read path) :: after) :
    ∃ earlier last, before = earlier ++ [(fs, last)] ∧ l.Reports fs source path last := by
  induction h generalizing before with
  | done => simp at hread
  | failed hturn rest => exact hturn.exists_report_map hread
  | merged hturn hrest ih =>
      rcases List.append_eq_append_iff.1 hread with ⟨mid, rfl, hlater⟩ | ⟨mid, hcalls, hlater⟩
      · obtain ⟨earlier, last, rfl, hreports⟩ := ih hlater
        exact ⟨_ ++ earlier, last, (List.append_assoc _ _ _).symm, hreports⟩
      · cases mid with
        | nil =>
            obtain ⟨earlier, last, hnil, -⟩ := @ih [] hlater.symm
            simp at hnil
        | cons question mid =>
            obtain ⟨rfl, -⟩ := List.cons.inj hlater
            exact hturn.exists_report_map hcalls

/-- A course ends with the first question that comes to an error. -/
theorem Layout.Course.exists_last [Platform] (h : l.Course source course asked failure)
    (hne : course ≠ []) :
    ∃ front last, asked = front ++ [last] ∧
      (∀ question ∈ front, errorOf? question.1 question.2 = none) ∧
      errorOf? last.1 last.2 = failure := by
  induction h with
  | done => exact absurd rfl hne
  | @failed fs tag calls e hturn rest =>
      obtain ⟨front, last, rfl, hfront, hlast⟩ := hturn.exists_last
      exact ⟨front.map (fs, ·), (fs, last), by simp, by simpa using hfront, hlast⟩
  | @merged fs tag calls rest asked failure hturn hrest ih =>
      obtain ⟨front, last, rfl, hfront, hlast⟩ := hturn.exists_last
      by_cases hend : rest = []
      · subst hend
        cases hrest
        exact ⟨front.map (fs, ·), (fs, last), by simp, by simpa using hfront, hlast⟩
      · obtain ⟨more, final, rfl, hmore, hfinal⟩ := ih hend
        refine ⟨(front ++ [last]).map (fs, ·) ++ more, final, by simp, ?_, hfinal⟩
        intro question hquestion
        rcases List.mem_append.1 hquestion with hmem | hmem
        · obtain ⟨call, hcall, rfl⟩ := List.mem_map.1 hmem
          rcases List.mem_append.1 hcall with hcall | hcall
          · exact hfront call hcall
          · rw [List.mem_singleton.1 hcall]
            exact hlast
        · exact hmore question hmem

/-- A course through tags is determined by the answers. It reads three files at most, each of them
right after it has been reported, and it ends with the first question that comes to an error. -/
structure Layout.IsOrderly [Platform] (l : Layout) (source : Text)
    (course : List (FileSystem × Text))
    (asked : List (FileSystem × FileCall)) (failure : Option LoadError) : Prop where
  course_iff : ∀ other failure',
    l.Course source course other failure' ↔ other = asked ∧ failure' = failure
  reads : asked.countP (·.2.isRead) ≤ 3
  reported : ∀ before fs path after, asked = before ++ (fs, .read path) :: after →
    ∃ earlier last, before = earlier ++ [(fs, last)] ∧ l.Reports fs source path last
  ended : ∃ front last, asked = front ++ [last] ∧
    (∀ question ∈ front, errorOf? question.1 question.2 = none) ∧ errorOf? last.1 last.2 = failure

variable {locale : Text}

theorem Layout.length_tags_le (l : Layout) (locale : Text) : (l.tags locale).length ≤ 3 := by
  unfold tags
  dsimp only
  split <;> split <;> simp

theorem Layout.tags_ne_nil (l : Layout) (locale : Text) : l.tags locale ≠ [] := by
  simp [tags]

theorem Layout.Course.isOrderly [Platform] (h : l.Course source course asked failure)
    (hcourse : course.map Prod.snd = l.tags locale) :
    l.IsOrderly source course asked failure := by
  have hlength : course.length ≤ 3 := by
    rw [← List.length_map Prod.snd, hcourse]
    exact l.length_tags_le locale
  have hne : course ≠ [] := by
    rintro rfl
    exact l.tags_ne_nil locale hcourse.symm
  refine ⟨?_, Nat.le_trans h.countP_isRead_le hlength, ?_, h.exists_last hne⟩
  · intro other failure'
    constructor
    · exact fun hother => hother.unique h
    · rintro ⟨rfl, rfl⟩
      exact h
  · intro before fs path after hread
    exact h.exists_report hread

/-! ## Loads -/

theorem Layout.exists_course_mergeAmid [Platform] (l : Layout) (source : Text) (below : Entries)
    (course : List (FileSystem × Text)) :
    ∃ asked, asked.map Prod.snd = (l.mergeAmid source below course).journal.calls ∧
      l.Course source course asked (failure? (l.mergeAmid source below course).result) := by
  obtain ⟨asked, failure, h⟩ := l.exists_course source course
  obtain ⟨hcalls, hfailure⟩ := h.mergeAmid_eq below
  rw [hcalls, hfailure]
  exact ⟨asked, rfl, h⟩

/-- Where the files do not change, the questions are put to them all. -/
theorem Layout.course_mergeLayers [Platform] (l : Layout) (fs : FileSystem) (source : Text)
    (below : Entries) (tags : List Text) :
    l.Course source (tags.map (fs, ·))
      ((l.mergeLayers fs source below tags).journal.calls.map (fs, ·))
      (failure? (l.mergeLayers fs source below tags).result) := by
  obtain ⟨asked, hasked, h⟩ := l.exists_course_mergeAmid source below (tags.map (fs, ·))
  rw [mergeAmid_const] at hasked h
  have hsame : asked.map (fun question => (fs, question.2)) = asked.map id := by
    refine List.map_congr_left fun question hquestion => ?_
    obtain ⟨tag, hmem⟩ := h.exists_of_mem hquestion
    obtain ⟨other, -, heq⟩ := List.mem_map.1 hmem
    rw [(Prod.mk.inj heq).1]
    rfl
  rw [← hasked, List.map_map]
  rw [List.map_id] at hsame
  exact hsame.symm ▸ h

namespace Store

variable {s : Store} {loader : Loader}

/-- A load that misses the cache asks what resolving asks, and fails with it. -/
theorem calls_load_of_missed [Platform] (fs : FileSystem)
    (hmiss : (s.cache loader.cache).get? ⟨source, locale⟩ = none) :
    (s.load fs loader ⟨source, none⟩ locale).1.journal.calls =
        (loader.layout.resolve fs source locale).journal.calls ∧
      failure? (s.load fs loader ⟨source, none⟩ locale).1.result =
        failure? (loader.layout.resolve fs source locale).result := by
  obtain ⟨hcalls, hgiven⟩ := load_of_missed fs hmiss
  rw [← hgiven, failure?_map]
  exact ⟨hcalls, rfl⟩

/-- A load that misses the cache takes its tags in order: for each it asks for the directory, then
for the file of the tag, then for a listing, each question only if the one before calls for it, and
reads the file that this has found. It reads three files at most, each of them right after it was
reported, and it asks nothing after the first error. All this holds as well if the files change
between the turns of the tags, and in one turn no question comes twice. -/
theorem load_course [Platform] (fs : FileSystem)
    (hmiss : (s.cache loader.cache).get? ⟨source, locale⟩ = none) :
    let load := (s.load fs loader ⟨source, none⟩ locale).1
    let tags := loader.layout.tags locale
    loader.layout.IsOrderly source (tags.map (fs, ·)) (load.journal.calls.map (fs, ·))
        (failure? load.result) ∧
      (∀ course : List (FileSystem × Text), course.map Prod.snd = tags →
        ∃ asked, asked.map Prod.snd = (loader.layout.mergeAmid source [] course).journal.calls ∧
          loader.layout.IsOrderly source course asked
            (failure? (loader.layout.mergeAmid source [] course).result)) ∧
      ∀ fs tag calls failure, loader.layout.Turn fs source tag calls failure → calls.Nodup := by
  intro load tags
  obtain ⟨hcalls, hfailure⟩ := calls_load_of_missed fs hmiss
  refine ⟨?_, fun course hcourse => ?_, fun _ _ _ _ h => h.nodup⟩
  · rw [hcalls, hfailure]
    have htags : (tags.map (fs, ·)).map Prod.snd = loader.layout.tags locale := by simp [tags]
    exact (loader.layout.course_mergeLayers fs source [] tags).isOrderly htags
  · obtain ⟨asked, hasked, h⟩ := loader.layout.exists_course_mergeAmid source [] course
    exact ⟨asked, hasked, h.isOrderly hcourse⟩

/-- The menu in German, whose directory is gone when German has its turn. -/
def vanishingMenu : List (FileSystem × Text) :=
  [(menu.fileSystem, "en".toList), (Flat.empty.fileSystem, "de".toList)]

theorem load_course_menu :
    (empty.cache englishLoader.cache).get? ⟨menuSource, "de".toList⟩ = none ∧
      englishLoader.layout.IsOrderly menuSource
        ((englishLoader.layout.tags "de".toList).map (menu.fileSystem, ·))
        ((empty.load menu.fileSystem englishLoader ⟨menuSource, none⟩
          "de".toList).1.journal.calls.map (menu.fileSystem, ·))
        (failure? (empty.load menu.fileSystem englishLoader ⟨menuSource, none⟩
          "de".toList).1.result) ∧
      vanishingMenu.map Prod.snd = englishLoader.layout.tags "de".toList ∧
      ∃ asked, asked.map Prod.snd =
          [.present "/app/resources".toList, .present "/app/resources/menu-en.json".toList,
            .read "/app/resources/menu-en.json".toList, .present "/app/resources".toList] ∧
        englishLoader.layout.IsOrderly menuSource vanishingMenu asked none := by
  have htags : vanishingMenu.map Prod.snd = englishLoader.layout.tags "de".toList := by cbv
  have hcalls : (englishLoader.layout.mergeAmid menuSource [] vanishingMenu).journal.calls =
      [.present "/app/resources".toList, .present "/app/resources/menu-en.json".toList,
        .read "/app/resources/menu-en.json".toList, .present "/app/resources".toList] := by cbv
  have hresult : failure? (englishLoader.layout.mergeAmid menuSource [] vanishingMenu).result =
      none := by cbv
  have hmiss : (empty.cache englishLoader.cache).get? ⟨menuSource, "de".toList⟩ = none := rfl
  obtain ⟨hload, hamid, -⟩ := load_course menu.fileSystem hmiss
  obtain ⟨asked, hasked, horderly⟩ := hamid vanishingMenu htags
  rw [hcalls] at hasked
  rw [hresult] at horderly
  exact ⟨hmiss, hload, htags, asked, hasked, horderly⟩

end Store

end Resources

end Phrasebook
