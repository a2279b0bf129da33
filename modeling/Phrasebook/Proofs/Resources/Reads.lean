import Phrasebook.Proofs.Resources.Loading

/-!
# Files that are read for a locale

A tag selects at most one file, and merging its layer reads that file and no other one. The tags of
a locale are gone through in order, so the files that are read are those that the tags select, up to
the first layer that cannot be merged; for the tags behind it no question is put to the file system
any more.
-/

namespace Phrasebook.Resources

/-- A tag selects the file at a path. -/
structure Layout.Selects (l : Layout) (fs : FileSystem) (source tag path : Text) : Prop where
  directory : fs.present (l.directory source) = .ok true
  file : (findFile fs (l.directory source) (stem source) tag).result = .ok (some path)

variable {l : Layout} {fs : FileSystem} {source tag path : Text} {below : Entries}

/-- No tag selects two files. -/
theorem Layout.Selects.path_eq {other : Text} (h : l.Selects fs source tag path)
    (hother : l.Selects fs source tag other) : path = other := by
  have := h.file.symm.trans hother.file
  cases this
  rfl

/-! ## Calls of one layer -/

/-- Finding a file reads none. -/
theorem read_not_mem_calls_findFile (directory stem : Text) :
    .read path ∉ (findFile fs directory stem tag).journal.calls := by
  unfold findFile
  dsimp only
  rw [Traced.mem_calls_bind_iff]
  rintro (hpresent | ⟨there, -, hcall⟩)
  · simp at hpresent
  · cases there with
    | true => cases hcall
    | false =>
        rw [if_neg Bool.false_ne_true] at hcall
        split at hcall
        · cases hcall
        · rcases Traced.mem_calls_bind_iff.1 hcall with hlist | ⟨names, -, hcall⟩
          · simp at hlist
          · split at hcall
            · cases hcall
            · rcases Traced.mem_calls_bind_iff.1 hcall with hlog | ⟨_, -, hcall⟩
              · cases hlog
              · cases hcall

variable [Platform]

/-- What was read is looked through without a question to the file system. -/
theorem calls_parseFile (path : Text) (content : Except ReadError Text) :
    (parseFile path content).journal.calls = [] := by
  unfold parseFile
  dsimp only
  repeat' split
  all_goals rfl

theorem calls_readFile (fs : FileSystem) (path : Text) :
    (readFile fs path).journal.calls = [.read path] := by
  rw [readFile, Traced.journal_bind_of_ok (a := fs.read path) rfl]
  rw [Journal.append_calls, calls_parseFile]
  rfl

/-- A file gives what is made of its content. -/
theorem result_readFile (fs : FileSystem) (path : Text) :
    (readFile fs path).result = (parseFile path (fs.read path)).result := rfl

/-- Merging a layer reads the file that its tag selects, and no other one. -/
theorem Layout.read_mem_calls_mergeLayer_iff :
    .read path ∈ (l.mergeLayer fs source below tag).journal.calls ↔
      l.Selects fs source tag path := by
  unfold mergeLayer
  dsimp only
  rw [Traced.mem_calls_bind_iff]
  simp only [Traced.calls_ask, Traced.result_ask, mapError_eq_ok_iff, List.mem_singleton,
    reduceCtorEq, false_or]
  constructor
  · rintro ⟨there, hdirectory, hcall⟩
    cases there with
    | false => cases hcall
    | true =>
        rcases Traced.mem_calls_bind_iff.1 hcall with hfind | ⟨file, hfile, hcall⟩
        · exact absurd hfind (read_not_mem_calls_findFile _ _)
        · cases file with
          | none => cases hcall
          | some other =>
              rcases Traced.mem_calls_bind_iff.1 hcall with hread | ⟨entries, -, hcall⟩
              · rw [calls_readFile, List.mem_singleton] at hread
                cases hread
                exact ⟨hdirectory, hfile⟩
              · rcases Traced.mem_calls_bind_iff.1 hcall with hlog | ⟨_, -, hcall⟩
                · cases hlog
                · cases hcall
  · rintro ⟨hdirectory, hfile⟩
    refine ⟨true, hdirectory, Traced.mem_calls_bind_iff.2 (.inr ⟨some path, hfile, ?_⟩)⟩
    refine Traced.mem_calls_bind_iff.2 (.inl ?_)
    rw [calls_readFile]
    exact List.mem_singleton_self _

/-! ## Calls of all layers -/

/-- Every file that is read is selected by one of the tags. -/
theorem Layout.exists_selects_of_read {tags : List Text}
    (h : .read path ∈ (l.mergeLayers fs source below tags).journal.calls) :
    ∃ tag ∈ tags, l.Selects fs source tag path := by
  induction tags generalizing below with
  | nil => cases h
  | cons first rest ih =>
      rw [mergeLayers, Traced.mem_calls_bind_iff] at h
      rcases h with hfirst | ⟨next, -, hrest⟩
      · exact ⟨first, List.mem_cons_self, read_mem_calls_mergeLayer_iff.1 hfirst⟩
      · obtain ⟨tag, htag, hselects⟩ := ih hrest
        exact ⟨tag, List.mem_cons_of_mem first htag, hselects⟩

/-- Where the layers of some tags cannot be merged, there is a first one of them that cannot, and
the tags behind it make no difference. -/
theorem Layout.exists_failing_layer {tags : List Text} {e : LoadError}
    (h : (l.mergeLayers fs source below tags).result = .error e) :
    ∃ before tag after next, tags = before ++ tag :: after ∧
      (l.mergeLayers fs source below before).result = .ok next ∧
      (l.mergeLayer fs source next tag).result = .error e ∧
      l.mergeLayers fs source below tags = l.mergeLayers fs source below (before ++ [tag]) := by
  induction tags generalizing below with
  | nil => cases h
  | cons first rest ih =>
      rw [mergeLayers, Traced.result_bind_eq_error_iff] at h
      rcases h with hfirst | ⟨next, hfirst, hrest⟩
      · refine ⟨[], first, rest, below, rfl, rfl, hfirst, ?_⟩
        rw [List.nil_append, mergeLayers, mergeLayers]
        change Traced.bind _ _ = Traced.bind _ _
        rw [Traced.bind_of_error hfirst, Traced.bind_of_error hfirst]
      · obtain ⟨before, tag, after, last, rfl, hbefore, htag, hsame⟩ := ih hrest
        refine ⟨first :: before, tag, after, last, rfl, ?_, htag, ?_⟩
        · rw [mergeLayers, Traced.result_bind_eq_ok_iff]
          exact ⟨next, hfirst, hbefore⟩
        · rw [List.cons_append, mergeLayers, mergeLayers]
          change Traced.bind _ _ = Traced.bind _ _
          rw [Traced.bind_of_ok hfirst, Traced.bind_of_ok hfirst, hsame]

end Phrasebook.Resources
