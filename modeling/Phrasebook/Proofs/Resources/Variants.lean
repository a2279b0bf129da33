import Phrasebook.Proofs.Resources.Confinement
import Phrasebook.Proofs.Resources.LoadedLayers

/-!
# The file for a tag

A tag has the file that is named for it, where there is one. Otherwise a tag of two characters has
the least of the files that are named for a region of it, and any other tag has none. Stem and tag
are taken as they are written, whatever characters they have. The least name does not depend on the
order in which a directory lists its names, nor does anything that is loaded.
-/

namespace Phrasebook.Resources

variable {fs other : FileSystem} {directory stem tag name : Text} {names : List Text}

/-! ## Names for a region -/

/-- A name is that of a file for a region of a tag: stem, tag and a word of ASCII letters, digits
and underscores with hyphens between them, and the ending. -/
def IsVariant (stem tag name : Text) : Prop :=
  ∃ word, word ≠ [] ∧ (∀ c ∈ word, c.isAlphanum = true ∨ c = '_') ∧
    name = stem ++ ['-'] ++ tag ++ ['-'] ++ word ++ ".json".toList

theorem isAsciiWord_iff {c : Char} : Text.isAsciiWord c = true ↔ c.isAlphanum = true ∨ c = '_' := by
  simp only [Text.isAsciiWord, Char.isAlphanum, Char.isAlpha, Char.isUpper, Char.isLower,
    Char.isDigit, Bool.or_eq_true, Bool.and_eq_true, decide_eq_true_eq, beq_iff_eq, Char.le_def,
    ge_iff_le]
  tauto

theorem isVariant_eq_true_iff : isVariant stem tag name = true ↔ IsVariant stem tag name := by
  rw [isVariant_iff, IsVariant]
  simp only [List.all_eq_true, isAsciiWord_iff, fileName, extension, List.append_assoc,
    List.cons_append, List.nil_append]

/-! ## The least name -/

theorem least?_eq_none_iff : least? names = none ↔ names = [] := by
  cases names with
  | nil => simp [least?]
  | cons first rest =>
      rw [least?]
      split
      · simp
      · simp

/-- No text comes before the least one in the order of code points. -/
theorem not_lt_of_least? (h : least? names = some name) : ∀ entry ∈ names, ¬entry < name := by
  induction names generalizing name with
  | nil => cases h
  | cons first rest ih =>
      intro entry hentry
      rw [least?] at h
      split at h
      · rename_i hnone
        cases h
        rw [least?_eq_none_iff.1 hnone, List.mem_singleton] at hentry
        rw [hentry]
        exact List.lt_irrefl first
      · rename_i last hlast
        cases h
        split
        · rename_i hlt
          rcases List.mem_cons.1 hentry with rfl | hmem
          · exact List.not_lt.2 (List.le_of_lt hlt)
          · exact ih hlast entry hmem
        · rename_i hlt
          rcases List.mem_cons.1 hentry with rfl | hmem
          · exact List.lt_irrefl entry
          · exact List.not_lt.2 (List.le_trans (List.not_lt.1 hlt)
              (List.not_lt.1 (ih hlast entry hmem)))

/-- The least of some texts is the one that no other text comes before. -/
theorem least?_eq_some_iff :
    least? names = some name ↔ name ∈ names ∧ ∀ entry ∈ names, ¬entry < name := by
  refine ⟨fun h => ⟨least?_mem h, not_lt_of_least? h⟩, ?_⟩
  rintro ⟨hmem, hle⟩
  cases hleast : least? names with
  | none =>
      rw [least?_eq_none_iff.1 hleast] at hmem
      cases hmem
  | some found =>
      have hfound := hle found (least?_mem hleast)
      have hname := not_lt_of_least? hleast name hmem
      rw [List.le_antisymm (List.not_lt.1 hname) (List.not_lt.1 hfound)]

/-- The least name does not depend on the order of the names. -/
theorem least?_perm {names' : List Text} (h : names.Perm names') :
    least? names = least? names' := by
  cases hleast : least? names with
  | none =>
      rw [least?_eq_none_iff] at hleast
      subst hleast
      rw [List.nil_perm.1 h]
      rfl
  | some name =>
      obtain ⟨hmem, hle⟩ := least?_eq_some_iff.1 hleast
      refine (least?_eq_some_iff.2 ⟨h.mem_iff.1 hmem, fun entry hentry => ?_⟩).symm
      exact hle entry (h.mem_iff.2 hentry)

/-- A name is the least, in the order of code points, of those in a list that are for a region of a
tag. -/
structure IsLeastVariant (stem tag : Text) (names : List Text) (name : Text) : Prop where
  listed : name ∈ names
  variant : IsVariant stem tag name
  least : ∀ entry ∈ names, IsVariant stem tag entry → ¬entry < name

theorem least?_filter_eq_some_iff :
    least? (names.filter (isVariant stem tag)) = some name ↔
      IsLeastVariant stem tag names name := by
  simp only [least?_eq_some_iff, List.mem_filter, isVariant_eq_true_iff]
  constructor
  · rintro ⟨⟨hlisted, hvariant⟩, hle⟩
    exact ⟨hlisted, hvariant, fun entry hentry hother => hle entry ⟨hentry, hother⟩⟩
  · rintro ⟨hlisted, hvariant, hle⟩
    exact ⟨⟨hlisted, hvariant⟩, fun entry hentry => hle entry hentry.1 hentry.2⟩

theorem least?_filter_eq_none_iff :
    least? (names.filter (isVariant stem tag)) = none ↔
      ∀ entry ∈ names, ¬IsVariant stem tag entry := by
  simp only [least?_eq_none_iff, List.filter_eq_nil_iff, isVariant_eq_true_iff]

/-! ## The file that is found -/

/-- How the file of a tag is looked for in a directory: the questions that are put, in order, and
what they come to. -/
inductive Search (fs : FileSystem) (directory stem tag : Text) :
    List FileCall → Except LoadError (Option Text) → Prop
  /-- The file that is named for the tag is there. -/
  | own (hown : fs.present (Path.join directory (fileName stem tag)) = .ok true) :
      Search fs directory stem tag [.present (Path.join directory (fileName stem tag))]
        (.ok (some (Path.join directory (fileName stem tag))))
  /-- It is not there, and the tag has no regions. -/
  | noRegions (hown : fs.present (Path.join directory (fileName stem tag)) = .ok false)
      (hlength : tag.length ≠ 2) :
      Search fs directory stem tag [.present (Path.join directory (fileName stem tag))] (.ok none)
  /-- It is not there, but there are files for regions. -/
  | variant {names : List Text} {name : Text}
      (hown : fs.present (Path.join directory (fileName stem tag)) = .ok false)
      (hlength : tag.length = 2) (hlist : fs.list directory = .ok names)
      (hleast : IsLeastVariant stem tag names name) :
      Search fs directory stem tag
        [.present (Path.join directory (fileName stem tag)), .list directory]
        (.ok (some (Path.join directory name)))
  /-- It is not there, and no file is for a region. -/
  | noVariant {names : List Text}
      (hown : fs.present (Path.join directory (fileName stem tag)) = .ok false)
      (hlength : tag.length = 2) (hlist : fs.list directory = .ok names)
      (hnone : ∀ name ∈ names, ¬IsVariant stem tag name) :
      Search fs directory stem tag
        [.present (Path.join directory (fileName stem tag)), .list directory] (.ok none)
  /-- Whether it is there cannot be found out. -/
  | ownFails {e : FileError}
      (hown : fs.present (Path.join directory (fileName stem tag)) = .error e) :
      Search fs directory stem tag [.present (Path.join directory (fileName stem tag))]
        (.error (.file e))
  /-- It is not there, and the directory cannot be listed. -/
  | listFails {e : FileError}
      (hown : fs.present (Path.join directory (fileName stem tag)) = .ok false)
      (hlength : tag.length = 2) (hlist : fs.list directory = .error e) :
      Search fs directory stem tag
        [.present (Path.join directory (fileName stem tag)), .list directory] (.error (.file e))

/-- Whatever the answers are, a search comes to something. -/
theorem exists_search (fs : FileSystem) (directory stem tag : Text) :
    ∃ calls found, Search fs directory stem tag calls found := by
  cases hown : fs.present (Path.join directory (fileName stem tag)) with
  | error e => exact ⟨_, _, .ownFails hown⟩
  | ok there =>
      cases there with
      | true => exact ⟨_, _, .own hown⟩
      | false =>
          by_cases hlength : tag.length = 2
          · cases hlist : fs.list directory with
            | error e => exact ⟨_, _, .listFails hown hlength hlist⟩
            | ok names =>
                cases hleast : least? (names.filter (isVariant stem tag)) with
                | none =>
                    exact ⟨_, _, .noVariant hown hlength hlist (least?_filter_eq_none_iff.1 hleast)⟩
                | some name =>
                    exact ⟨_, _, .variant hown hlength hlist (least?_filter_eq_some_iff.1 hleast)⟩
          · exact ⟨_, _, .noRegions hown hlength⟩

variable {calls : List FileCall} {found : Except LoadError (Option Text)}

/-- Where the directory is listed, the least name for a region decides. -/
theorem findFile_of_listed (hown : fs.present (Path.join directory (fileName stem tag)) = .ok false)
    (hlength : tag.length = 2) (hlist : fs.list directory = .ok names) :
    (findFile fs directory stem tag).journal.calls =
        [.present (Path.join directory (fileName stem tag)), .list directory] ∧
      (findFile fs directory stem tag).result =
        .ok ((least? (names.filter (isVariant stem tag))).map (Path.join directory)) := by
  unfold findFile
  dsimp only
  rw [hown, hlist, Traced.journal_bind_of_ok (a := false) rfl, Traced.result_bind_of_ok rfl,
    if_neg Bool.false_ne_true, if_neg (Decidable.not_not.2 hlength),
    Traced.journal_bind_of_ok (a := names) rfl, Traced.result_bind_of_ok (a := names) rfl]
  cases least? (names.filter (isVariant stem tag)) with
  | none => exact ⟨rfl, rfl⟩
  | some name => exact ⟨rfl, rfl⟩

/-- What a search comes to is what looking for the file gives. -/
theorem Search.findFile_eq (h : Search fs directory stem tag calls found) :
    (findFile fs directory stem tag).journal.calls = calls ∧
      (findFile fs directory stem tag).result = found := by
  cases h with
  | own hown =>
      unfold findFile
      dsimp only
      rw [hown]
      exact ⟨rfl, rfl⟩
  | noRegions hown hlength =>
      unfold findFile
      dsimp only
      rw [hown, if_pos hlength]
      exact ⟨rfl, rfl⟩
  | variant hown hlength hlist hleast =>
      obtain ⟨hcalls, hfound⟩ := findFile_of_listed hown hlength hlist
      rw [least?_filter_eq_some_iff.2 hleast] at hfound
      exact ⟨hcalls, hfound⟩
  | noVariant hown hlength hlist hnone =>
      obtain ⟨hcalls, hfound⟩ := findFile_of_listed hown hlength hlist
      rw [least?_filter_eq_none_iff.2 hnone] at hfound
      exact ⟨hcalls, hfound⟩
  | ownFails hown =>
      unfold findFile
      dsimp only
      rw [hown]
      exact ⟨rfl, rfl⟩
  | listFails hown hlength hlist =>
      unfold findFile
      dsimp only
      rw [hown, hlist, if_neg (Decidable.not_not.2 hlength)]
      exact ⟨rfl, rfl⟩

/-- A search is what looking for the file does. -/
theorem search_iff : Search fs directory stem tag calls found ↔
    (findFile fs directory stem tag).journal.calls = calls ∧
      (findFile fs directory stem tag).result = found := by
  refine ⟨Search.findFile_eq, ?_⟩
  rintro ⟨rfl, rfl⟩
  obtain ⟨calls, found, h⟩ := exists_search fs directory stem tag
  obtain ⟨hcalls, hfound⟩ := h.findFile_eq
  rw [hcalls, hfound]
  exact h

/-! ## Listings in another order -/

/-- Listings that fail alike or have the same names, in whatever order. -/
inductive SameNames : Except FileError (List Text) → Except FileError (List Text) → Prop
  | failed (e : FileError) : SameNames (.error e) (.error e)
  | names {names names' : List Text} (h : names.Perm names') : SameNames (.ok names) (.ok names')

/-- File systems that give the same answers, but may list the names in a directory in another
order. -/
structure SameFiles (fs other : FileSystem) : Prop where
  present : ∀ path, fs.present path = other.present path
  read : ∀ path, fs.read path = other.read path
  list : ∀ path, SameNames (fs.list path) (other.list path)

namespace SameFiles

theorem findFile_eq (h : SameFiles fs other) (directory stem tag : Text) :
    findFile fs directory stem tag = findFile other directory stem tag := by
  have hlist := h.list directory
  unfold findFile
  dsimp only
  rw [h.present]
  generalize fs.list directory = names at hlist ⊢
  generalize other.list directory = names' at hlist ⊢
  cases hlist with
  | failed e => rfl
  | names hperm =>
      congr 1
      funext there
      refine if_congr Iff.rfl rfl (if_congr Iff.rfl rfl (Traced.ask_bind_congr ?_))
      rw [least?_perm (hperm.filter (isVariant stem tag))]

variable {l : Layout} {source locale : Text}

theorem mergeLayer_eq [Platform] (h : SameFiles fs other) (below : Entries) :
    l.mergeLayer fs source below tag = l.mergeLayer other source below tag := by
  have hread : ∀ path, readFile fs path = readFile other path := by
    intro path
    rw [readFile, readFile, h.read]
  unfold Layout.mergeLayer
  dsimp only
  rw [h.present, h.findFile_eq]
  simp only [hread]

theorem mergeLayers_eq [Platform] (h : SameFiles fs other) (below : Entries) (tags : List Text) :
    l.mergeLayers fs source below tags = l.mergeLayers other source below tags := by
  induction tags generalizing below with
  | nil => rfl
  | cons tag rest ih => simp only [Layout.mergeLayers, h.mergeLayer_eq, ih]

theorem load_eq [Platform] (h : SameFiles fs other) (s : Store) (loader : Loader) (bundle : Bundle)
    (locale : Text) : s.load fs loader bundle locale = s.load other loader bundle locale := by
  simp only [Store.load, Layout.resolve, h.mergeLayers_eq]

end SameFiles

/-- The file for a tag is the one named for it if that is there; otherwise, for a tag of two
characters, the least listed one for a region of it, and for any other tag none. The errors are
those of the questions that this takes. File systems that differ in the order of their listings
alone give the same loads. -/
theorem file_for_tag [Platform] (fs : FileSystem) (directory stem tag : Text) :
    (∀ found, (findFile fs directory stem tag).result = found ↔
      ∃ calls, Search fs directory stem tag calls found) ∧
    ∀ other : FileSystem, SameFiles fs other →
      ∀ (s : Store) (loader : Loader) (bundle : Bundle) (locale : Text),
        s.load fs loader bundle locale = s.load other loader bundle locale := by
  refine ⟨fun found => ?_, fun other h => h.load_eq⟩
  constructor
  · rintro rfl
    exact ⟨_, search_iff.2 ⟨rfl, rfl⟩⟩
  · rintro ⟨calls, h⟩
    exact h.findFile_eq.2

/-- A directory that lists some names, of which none can be asked for. -/
def shelf (directory : Text) (names : List Text) : FileSystem where
  present path := .ok (path == directory)
  list _ := .ok names
  read _ := .ok "\x7b\x7d".toList

/-- Files for regions of French beside names that only look like theirs. -/
def frenchNames : List Text :=
  ["m.nu-fr-CA.json".toList, "mxnu-fr-AA.json".toList, "m.nu-fr-BE.json".toList,
    "m.nu-fr-.json".toList, "m.nu-fr-A.json.json".toList]

theorem file_for_tag_shelf :
    let fs := shelf "/app/resources".toList frenchNames
    (findFile fs "/app/resources".toList "m.nu".toList "fr".toList).result =
        .ok (some (Path.join "/app/resources".toList "m.nu-fr-BE.json".toList)) ∧
      SameFiles fs (shelf "/app/resources".toList frenchNames.reverse) ∧
      Store.empty.load fs englishLoader ⟨"/app/m.nu.py".toList, none⟩ "fr".toList =
        Store.empty.load (shelf "/app/resources".toList frenchNames.reverse) englishLoader
          ⟨"/app/m.nu.py".toList, none⟩ "fr".toList := by
  intro fs
  have hown : fs.present (Path.join "/app/resources".toList
      (fileName "m.nu".toList "fr".toList)) = .ok false := by decide
  have hleast : IsLeastVariant "m.nu".toList "fr".toList frenchNames "m.nu-fr-BE.json".toList :=
    least?_filter_eq_some_iff.1 (by cbv)
  have hsame : SameFiles fs (shelf "/app/resources".toList frenchNames.reverse) :=
    ⟨fun _ => rfl, fun _ => rfl, fun _ => .names (List.reverse_perm frenchNames).symm⟩
  obtain ⟨hfound, hload⟩ := file_for_tag fs "/app/resources".toList "m.nu".toList "fr".toList
  have hsearch := Search.variant hown (by decide) rfl hleast
  exact ⟨(hfound _).2 ⟨_, hsearch⟩, hsame, hload _ hsame _ _ _ _⟩

end Phrasebook.Resources
