import Phrasebook.Proofs.Resources.Confinement

/-!
# Sources with a single file

Where all tags of a locale that select a file select the same one, the locale resolves to the
entries of that file, however many of its tags select it; where none does, it resolves to nothing.
A directory with one file in it is the smallest file system in which a tag selects something, and
serves wherever such a file system has to be shown.
-/

namespace Phrasebook

/-- A directory with one file in it. -/
def FileSystem.sole (directory name text : Text) : FileSystem where
  present path := .ok (path == directory || path == Path.join directory name)
  list path := if path = directory then .ok [name] else .error (.notDirectory path)
  read path :=
    if path = Path.join directory name then .ok text else .error (.file (.notFound path))

theorem Path.join_ne_self {directory name : Text} (hname : name ≠ [])
    (hhead : name.head? ≠ some '/') : join directory name ≠ directory := by
  intro h
  have hlength := congrArg List.length h
  have hpos := List.length_pos_iff.2 hname
  rw [join, if_neg hhead] at hlength
  split at hlength
  · rw [List.length_append] at hlength
    omega
  · rw [List.length_append, List.length_cons] at hlength
    omega

namespace Resources

variable {l : Layout} {fs : FileSystem} {source locale path : Text} {entries : Entries}

/-! ## Reads of layers that can be merged -/

/-- Where the layers of some tags can be merged, every file that one of them selects is read. -/
theorem Layout.read_mem_of_selects [Platform] {tags : List Text} {tag : Text}
    {below above : Entries}
    (h : (l.mergeLayers fs source below tags).result = .ok above) (htag : tag ∈ tags)
    (hselects : l.Selects fs source tag path) :
    .read path ∈ (l.mergeLayers fs source below tags).journal.calls := by
  induction tags generalizing below with
  | nil => cases htag
  | cons first rest ih =>
      rw [mergeLayers, Traced.result_bind_eq_ok_iff] at h
      obtain ⟨next, hfirst, hrest⟩ := h
      rw [mergeLayers, Traced.mem_calls_bind_iff]
      rcases List.mem_cons.1 htag with rfl | hmem
      · exact .inl (read_mem_calls_mergeLayer_iff.2 hselects)
      · exact .inr ⟨next, hfirst, ih hrest hmem⟩

/-- A load that resolves its locale reads every file that a tag of the locale selects. -/
theorem Store.read_mem_load [Platform] {s : Store} {loader : Loader} {tag : Text}
    (hmiss : (s.cache loader.cache).get? ⟨source, locale⟩ = none)
    (h : (loader.layout.resolve fs source locale).result = .ok entries)
    (htag : tag ∈ loader.layout.tags locale) (hselects : loader.layout.Selects fs source tag path) :
    .read path ∈ (s.load fs loader ⟨source, none⟩ locale).1.journal.calls := by
  rw [load_of_resolved hmiss h]
  exact Layout.read_mem_of_selects h htag hselects

/-! ## All tags select the same file -/

/-- Some tags select the file at a path or none. -/
structure Layout.SelectsOnly (l : Layout) (fs : FileSystem) (source : Text) (tags : List Text)
    (path : Text) : Prop where
  directory : fs.present (l.directory source) = .ok true
  files : ∀ tag ∈ tags, ∃ file, (findFile fs (l.directory source) (stem source) tag).result =
    .ok file ∧ ∀ other, file = some other → other = path

theorem Layout.SelectsOnly.tail {first : Text} {rest : List Text}
    (h : l.SelectsOnly fs source (first :: rest) path) : l.SelectsOnly fs source rest path := by
  refine ⟨h.directory, ?_⟩
  intro tag htag
  exact h.files tag (List.mem_cons_of_mem first htag)

/-- A tag contributes the entries of the file or nothing. -/
theorem Layout.SelectsOnly.contributes [Platform] {tags : List Text} {tag : Text}
    (h : l.SelectsOnly fs source tags path) (htag : tag ∈ tags)
    (hread : (parseFile path (fs.read path)).result = .ok entries) :
    l.Selects fs source tag path ∧ l.Contributes fs source tag entries ∨
      ¬ l.Selects fs source tag path ∧ l.Contributes fs source tag [] := by
  obtain ⟨file, hfile, hsame⟩ := h.files tag htag
  cases file with
  | none =>
      refine .inr ⟨?_, .noFile h.directory hfile⟩
      intro hselects
      have hnone := hselects.file
      rw [hfile] at hnone
      cases hnone
  | some other =>
      rw [hsame other rfl] at hfile
      exact .inl ⟨⟨h.directory, hfile⟩, .file h.directory hfile hread⟩

/-- Entries stay as they are when they are merged again. -/
theorem Layout.SelectsOnly.merged [Platform] {tags : List Text}
    (h : l.SelectsOnly fs source tags path)
    (hread : (parseFile path (fs.read path)).result = .ok entries)
    (hnodup : entries.keys.Nodup) :
    (l.mergeLayers fs source entries tags).result = .ok entries := by
  induction tags with
  | nil => rfl
  | cons first rest ih =>
      rw [mergeLayers, Traced.result_bind_eq_ok_iff]
      refine ⟨entries, mergeLayer_eq_ok_iff.2 ?_, ih h.tail⟩
      rcases h.contributes List.mem_cons_self hread with ⟨-, hfile⟩ | ⟨-, hnothing⟩
      · exact ⟨entries, hfile, (Dict.merge_self hnodup).symm⟩
      · exact ⟨[], hnothing, rfl⟩

/-- Where all tags select the same file or none, its entries are merged if one of them selects
it. -/
theorem Layout.SelectsOnly.mergeLayers_nil [Platform] {tags : List Text}
    (h : l.SelectsOnly fs source tags path)
    (hread : (parseFile path (fs.read path)).result = .ok entries)
    (hnodup : entries.keys.Nodup) :
    (∃ tag ∈ tags, l.Selects fs source tag path) ∧
        (l.mergeLayers fs source [] tags).result = .ok entries ∨
      (∀ tag ∈ tags, ¬ l.Selects fs source tag path) ∧
        (l.mergeLayers fs source [] tags).result = .ok [] := by
  induction tags with
  | nil => exact .inr ⟨nofun, rfl⟩
  | cons first rest ih =>
      rw [mergeLayers]
      rcases h.contributes List.mem_cons_self hread with ⟨hselects, hfile⟩ | ⟨hnot, hnothing⟩
      · refine .inl ⟨⟨first, List.mem_cons_self, hselects⟩, ?_⟩
        rw [Traced.result_bind_eq_ok_iff]
        refine ⟨entries, mergeLayer_eq_ok_iff.2 ⟨entries, hfile, ?_⟩, h.tail.merged hread hnodup⟩
        exact (Dict.ofPairs_of_nodup hnodup).symm
      · have hlayer : (l.mergeLayer fs source [] first).result = .ok [] :=
          mergeLayer_eq_ok_iff.2 ⟨[], hnothing, rfl⟩
        rw [Traced.result_bind_of_ok hlayer]
        rcases ih h.tail with ⟨⟨tag, htag, hselects⟩, hrest⟩ | ⟨hnone, hrest⟩
        · exact .inl ⟨⟨tag, List.mem_cons_of_mem first htag, hselects⟩, hrest⟩
        · refine .inr ⟨?_, hrest⟩
          intro tag htag
          rcases List.mem_cons.1 htag with rfl | hmem
          · exact hnot
          · exact hnone tag hmem

/-! ## A directory with one file -/

/-- A name is one that a tag looks for: that of its file or of one for a region of it. -/
def LooksFor (stem tag name : Text) : Prop :=
  fileName stem tag = name ∨ tag.length = 2 ∧ isVariant stem tag name = true

theorem head?_fileName {stem : Text} (h : '/' ∉ stem) (tag : Text) :
    (fileName stem tag).head? ≠ some '/' := by
  cases stem with
  | nil => simp [fileName]
  | cons c rest =>
      rintro hslash
      cases hslash
      exact h List.mem_cons_self

theorem fileName_ne_nil (stem tag : Text) : fileName stem tag ≠ [] := by
  simp [fileName]

theorem fileName_inj {stem tag other : Text} :
    fileName stem tag = fileName stem other ↔ tag = other := by
  rw [fileName, fileName, List.append_left_inj, List.append_right_inj]

variable {name stem tag : Text}

theorem present_sole (hstem : '/' ∉ stem) (hname : name.head? ≠ some '/')
    (directory text tag : Text) :
    (FileSystem.sole directory name text).present (Path.join directory (fileName stem tag)) =
      .ok (fileName stem tag == name) := by
  have hhead := head?_fileName hstem tag
  have hdirectory : Path.join directory (fileName stem tag) ≠ directory :=
    Path.join_ne_self (fileName_ne_nil stem tag) hhead
  have hsame : Path.join directory (fileName stem tag) = Path.join directory name ↔
      fileName stem tag = name := Path.join_inj hhead hname
  simp only [FileSystem.sole, beq_eq_false_iff_ne.2 hdirectory, Bool.false_or]
  congr 1
  rw [Bool.eq_iff_iff, beq_iff_eq, beq_iff_eq]
  exact hsame

/-- A tag finds the only file of a directory exactly if it looks for its name. -/
theorem findFile_sole (hstem : '/' ∉ stem) (hname : name.head? ≠ some '/')
    (directory text tag : Text) :
    ∃ file, (findFile (.sole directory name text) directory stem tag).result = .ok file ∧
      (∀ other, file = some other → other = Path.join directory name) ∧
      (file = some (Path.join directory name) ↔ LooksFor stem tag name) := by
  have hpresent := present_sole hstem hname directory text tag
  unfold findFile
  dsimp only
  rw [hpresent]
  by_cases hsame : fileName stem tag = name
  · rw [beq_iff_eq.2 hsame, hsame]
    exact ⟨_, rfl, fun _ h => (Option.some.inj h).symm, iff_of_true rfl (.inl hsame)⟩
  · rw [beq_eq_false_iff_ne.2 hsame, Traced.result_bind_of_ok rfl, if_neg Bool.false_ne_true]
    split
    · rename_i hlength
      refine ⟨none, rfl, nofun, iff_of_false nofun ?_⟩
      rintro (h | ⟨h, -⟩)
      · exact hsame h
      · exact hlength h
    · rename_i hlength
      have hlist : (FileSystem.sole directory name text).list directory = .ok [name] :=
        if_pos rfl
      rw [hlist, Traced.result_bind_of_ok rfl, List.filter_singleton]
      cases hvariant : isVariant stem tag name with
      | true =>
          refine ⟨_, rfl, fun _ h => (Option.some.inj h).symm, iff_of_true rfl ?_⟩
          exact .inr ⟨Decidable.not_not.1 hlength, hvariant⟩
      | false =>
          refine ⟨none, rfl, nofun, iff_of_false nofun ?_⟩
          rintro (h | ⟨-, h⟩)
          · exact hsame h
          · rw [hvariant] at h
            cases h

/-- A tag selects the only file of a directory exactly if it looks for its name. -/
theorem selects_sole_iff (hname : name.head? ≠ some '/') (text tag : Text) :
    l.Selects (.sole (l.directory source) name text) source tag
        (Path.join (l.directory source) name) ↔ LooksFor (Resources.stem source) tag name := by
  obtain ⟨file, hfile, -, hlooks⟩ :=
    findFile_sole (slash_not_mem_stem source) hname (l.directory source) text tag
  rw [← hlooks]
  constructor
  · intro h
    have hfound := h.file
    rw [hfile] at hfound
    exact Except.ok.inj hfound
  · rintro rfl
    refine ⟨?_, hfile⟩
    simp [FileSystem.sole]

theorem selectsOnly_sole (hname : name.head? ≠ some '/') (text : Text) (tags : List Text) :
    l.SelectsOnly (.sole (l.directory source) name text) source tags
      (Path.join (l.directory source) name) := by
  refine ⟨?_, ?_⟩
  · simp [FileSystem.sole]
  · intro tag _
    obtain ⟨file, hfile, hsame, -⟩ :=
      findFile_sole (slash_not_mem_stem source) hname (l.directory source) text tag
    exact ⟨file, hfile, hsame⟩

/-- In a directory with one file a locale resolves to the entries of the file if one of its tags
looks for the name of the file, and to nothing otherwise. -/
theorem resolve_sole [Platform] {text : Text} (hname : name.head? ≠ some '/')
    (hread : (parseFile (Path.join (l.directory source) name) (.ok text)).result = .ok entries)
    (hnodup : entries.keys.Nodup) (locale : Text) :
    (∃ tag ∈ l.tags locale, LooksFor (Resources.stem source) tag name) ∧
        (l.resolve (.sole (l.directory source) name text) source locale).result = .ok entries ∨
      (∀ tag ∈ l.tags locale, ¬ LooksFor (Resources.stem source) tag name) ∧
        (l.resolve (.sole (l.directory source) name text) source locale).result = .ok [] := by
  have hfile : (FileSystem.sole (l.directory source) name text).read
      (Path.join (l.directory source) name) = .ok text := if_pos rfl
  simp only [← selects_sole_iff (l := l) hname text]
  exact (selectsOnly_sole hname text (l.tags locale)).mergeLayers_nil (by rwa [hfile]) hnodup

end Resources

end Phrasebook
