import Phrasebook.Proofs.Resources.Confinement
import Phrasebook.Proofs.Resources.LoadedLayers
import Phrasebook.Proofs.Resources.Memory
import Mathlib.Logic.Relation

/-!
# Spellings of a source path

The files of a source depend on the directory of the source and on its file name without the last
extension, and on both only after backslashes are read as slashes. So a source may be spelled with
backslashes, with another extension or without one, and the same questions are asked of the same
files. A cache does not know this: it remembers each spelling apart from the others.
-/

namespace Phrasebook.Path

variable {path other front x y : Text}

/-! ## The last part of a path -/

/-- The file name at the end of a path, whichever way the separators are written. -/
def lastName (path : Text) : Text :=
  basename (slashed path)

theorem slashed_append (a b : Text) : slashed (a ++ b) = slashed a ++ slashed b :=
  List.map_append

theorem slashed_of_not_mem {b : Text} (h : '\\' ∉ b) : slashed b = b := by
  conv_rhs => rw [← List.map_id b]
  refine List.map_congr_left fun c hc => if_neg ?_
  rintro rfl
  exact h hc

/-- A text that has no slash once it is slashed has no separator of either kind. -/
theorem not_mem_of_slash_not_mem_slashed {b : Text} (h : '/' ∉ slashed b) : '/' ∉ b ∧ '\\' ∉ b := by
  constructor
  · intro hmem
    exact h (List.mem_map.2 ⟨'/', hmem, rfl⟩)
  · intro hmem
    exact h (List.mem_map.2 ⟨'\\', hmem, rfl⟩)

theorem forall_not_isSlash {b : Text} (h : '/' ∉ b) : ∀ c ∈ b.reverse, (!isSlash c) = true := by
  intro c hc
  rw [Bool.not_eq_true', isSlash, beq_eq_false_iff_ne]
  rintro rfl
  exact h (List.mem_reverse.1 hc)

theorem basename_append (a : Text) {b : Text} (h : '/' ∉ b) :
    basename (a ++ b) = basename a ++ b := by
  rw [basename, basename, List.reverse_append, List.takeWhile_append_of_pos (forall_not_isSlash h),
    List.reverse_append, List.reverse_reverse]

theorem uptoSlash_append (a : Text) {b : Text} (h : '/' ∉ b) :
    uptoSlash (a ++ b) = uptoSlash a := by
  rw [uptoSlash, uptoSlash, List.reverse_append,
    List.dropWhile_append_of_pos (forall_not_isSlash h)]

/-- Texts without separators go to the end of the file name. -/
theorem lastName_append (a : Text) {b : Text} (hslash : '/' ∉ b) (hbackslash : '\\' ∉ b) :
    lastName (a ++ b) = lastName a ++ b := by
  rw [lastName, slashed_append, slashed_of_not_mem hbackslash, basename_append _ hslash, lastName]

/-- Texts without separators at the end of a path leave its directory alone. -/
theorem dirname_slashed_append (a : Text) {b : Text} (hslash : '/' ∉ b) (hbackslash : '\\' ∉ b) :
    dirname (slashed (a ++ b)) = dirname (slashed a) := by
  rw [dirname, dirname, slashed_append, slashed_of_not_mem hbackslash, uptoSlash_append _ hslash]

/-- The file name stands at the end of the path itself, as it holds no separator. -/
theorem exists_append_lastName (path : Text) :
    ∃ front, path = front ++ lastName path ∧ '/' ∉ lastName path ∧ '\\' ∉ lastName path := by
  have hparts : slashed path = uptoSlash (slashed path) ++ lastName path :=
    (uptoSlash_append_basename _).symm
  obtain ⟨front, back, hpath, -, hback⟩ := List.map_eq_append_iff.1 hparts
  change slashed back = lastName path at hback
  have hslash : '/' ∉ slashed back := hback ▸ slash_not_mem_basename _
  obtain ⟨hno, hno'⟩ := not_mem_of_slash_not_mem_slashed hslash
  rw [slashed_of_not_mem hno'] at hback
  rw [← hback]
  exact ⟨front, hpath, hno, hno'⟩

/-! ## Extensions -/

/-- What may stand behind the dot of an extension. -/
structure IsExtension (x : Text) : Prop where
  dot : '.' ∉ x
  slash : '/' ∉ x
  backslash : '\\' ∉ x

/-- An extension goes to the end of the file name and leaves the directory alone. -/
theorem IsExtension.append_eq (h : IsExtension x) (path : Text) :
    lastName (path ++ '.' :: x) = lastName path ++ '.' :: x ∧
      dirname (slashed (path ++ '.' :: x)) = dirname (slashed path) := by
  have hslash : '/' ∉ '.' :: x := by simp [h.slash]
  have hbackslash : '\\' ∉ '.' :: x := by simp [h.backslash]
  exact ⟨lastName_append path hslash hbackslash, dirname_slashed_append path hslash hbackslash⟩

/-- Whether the file name of a path has a character other than a dot. -/
def IsNamed (path : Text) : Prop :=
  ∃ c ∈ lastName path, c ≠ '.'

/-- A path ends with an extension. What stands before the last dot of a file name must hold more
than dots, or the dot starts no extension. -/
structure EndsWith (path front x : Text) : Prop where
  eq : path = front ++ '.' :: x
  isExtension : IsExtension x
  isNamed : IsNamed front

theorem stem_append {name : Text} (hname : ∃ c ∈ name, c ≠ '.') (hx : '.' ∉ x) :
    stem (name ++ '.' :: x) = name := by
  have hbehind : ∀ c ∈ x.reverse, (c != '.') = true := by
    intro c hc
    rw [bne_iff_ne]
    rintro rfl
    exact hx (List.mem_reverse.1 hc)
  have hdrop : (name ++ '.' :: x).reverse.dropWhile (· != '.') = '.' :: name.reverse := by
    rw [List.reverse_append, List.reverse_cons, List.append_assoc,
      List.dropWhile_append_of_pos hbehind, List.singleton_append]
    exact List.dropWhile_cons_of_neg (by simp)
  have hall : ¬ name.reverse.all (· == '.') = true := by
    simpa using hname
  rw [stem, hdrop]
  dsimp only
  rw [if_neg hall, List.reverse_reverse]

/-- A name that its stem differs from has an extension. -/
theorem exists_append_of_stem_ne {name : Text} (h : stem name ≠ name) :
    ∃ front x, name = front ++ '.' :: x ∧ (∃ c ∈ front, c ≠ '.') ∧ '.' ∉ x := by
  have hsplit : (name.reverse.takeWhile (· != '.')) ++ (name.reverse.dropWhile (· != '.')) =
      name.reverse := List.takeWhile_append_dropWhile
  rw [stem] at h
  split at h
  · exact absurd rfl h
  · rename_i c front hdrop
    have hc : c = '.' := by
      have hhead := List.head_dropWhile_not (· != '.') (l := name.reverse) (by simp [hdrop])
      simpa [hdrop] using hhead
    split at h
    · exact absurd rfl h
    · rename_i hall
      refine ⟨front.reverse, (name.reverse.takeWhile (· != '.')).reverse, ?_, ?_, ?_⟩
      · rw [hdrop, hc] at hsplit
        have hname := congrArg List.reverse hsplit
        rw [List.reverse_reverse, List.reverse_append, List.reverse_cons,
          List.append_assoc] at hname
        exact hname.symm
      · simpa using hall
      · intro hmem
        have hbehind := List.all_takeWhile (p := (· != '.')) (l := name.reverse)
        simpa using List.all_eq_true.1 hbehind _ (List.mem_reverse.1 hmem)

namespace EndsWith

/-- Where a path ends with an extension, the extension is what the stem of its file name lacks. -/
theorem stem_lastName (h : EndsWith path front x) : stem (lastName path) = lastName front := by
  rw [h.eq, (h.isExtension.append_eq front).1]
  exact stem_append h.isNamed h.isExtension.dot

theorem dirname_slashed (h : EndsWith path front x) :
    dirname (slashed path) = dirname (slashed front) := by
  rw [h.eq]
  exact (h.isExtension.append_eq front).2

end EndsWith

/-- A path ends with an extension exactly if there is one to leave out of its file name. -/
theorem exists_endsWith_iff :
    (∃ front x, EndsWith path front x) ↔ stem (lastName path) ≠ lastName path := by
  constructor
  · rintro ⟨front, x, h⟩ hsame
    rw [h.stem_lastName, h.eq, (h.isExtension.append_eq front).1] at hsame
    simp at hsame
  · intro h
    obtain ⟨name, x, hname, hnamed, hdot⟩ := exists_append_of_stem_ne h
    obtain ⟨directory, hpath, hslash, hbackslash⟩ := exists_append_lastName path
    rw [hname] at hpath hslash hbackslash
    have hx : IsExtension x := by
      refine ⟨hdot, ?_, ?_⟩
      · intro hmem
        exact hslash (by simp [hmem])
      · intro hmem
        exact hbackslash (by simp [hmem])
    have hfront : lastName (directory ++ name) = name := by
      have hlast := (hx.append_eq (directory ++ name)).1
      rw [List.append_assoc, ← hpath, hname] at hlast
      exact (List.append_cancel_right hlast).symm
    refine ⟨directory ++ name, x, by rw [List.append_assoc]; exact hpath, hx, ?_⟩
    rw [IsNamed, hfront]
    exact hnamed

/-! ## Spellings -/

/-- One path is another one spelled in a way that the files beside it do not depend on. -/
inductive Respelling : Text → Text → Prop
  /-- Slashes are written for backslashes. -/
  | slashed (path : Text) : Respelling path (slashed path)
  /-- The last extension of the file name is another one. -/
  | replaced {path front x y : Text} (h : EndsWith path front x) (hy : IsExtension y) :
      Respelling path (front ++ '.' :: y)
  /-- A file name without an extension gets one. -/
  | appended {path y : Text} (hnone : ∀ front x, ¬ EndsWith path front x) (hnamed : IsNamed path)
      (hy : IsExtension y) : Respelling path (path ++ '.' :: y)

/-- Two paths have the same directory and the same file name up to the last extension. -/
structure SamePlace (path other : Text) : Prop where
  dirname : dirname (slashed path) = dirname (slashed other)
  stem : stem (lastName path) = stem (lastName other)

theorem equivalence_samePlace : Equivalence SamePlace where
  refl _ := ⟨rfl, rfl⟩
  symm h := ⟨h.dirname.symm, h.stem.symm⟩
  trans h h' := ⟨h.dirname.trans h'.dirname, h.stem.trans h'.stem⟩

theorem EndsWith.samePlace (h : EndsWith path front x) (h' : EndsWith other front y) :
    SamePlace path other :=
  ⟨h.dirname_slashed.trans h'.dirname_slashed.symm, h.stem_lastName.trans h'.stem_lastName.symm⟩

theorem Respelling.samePlace (h : Respelling path other) : SamePlace path other := by
  cases h with
  | slashed => constructor <;> simp [lastName]
  | replaced h hy => exact h.samePlace ⟨rfl, hy, h.isNamed⟩
  | @appended y hnone hnamed hy =>
      have h : EndsWith (path ++ '.' :: y) path y := ⟨rfl, hy, hnamed⟩
      have hstem : Path.stem (lastName path) = lastName path := by
        by_contra hne
        obtain ⟨front, x, hends⟩ := exists_endsWith_iff.2 hne
        exact hnone front x hends
      exact ⟨h.dirname_slashed.symm, hstem.trans h.stem_lastName.symm⟩

/-- Paths that are spellings of one another through any number of steps are at the same place. -/
theorem samePlace_of_eqvGen (h : Relation.EqvGen Respelling path other) : SamePlace path other :=
  equivalence_samePlace.eqvGen_iff.1 (Relation.EqvGen.mono (fun _ _ h => h.samePlace) _ _ h)

end Phrasebook.Path

namespace Phrasebook.Resources

variable {l : Layout} {source other : Text}

/-! ## Files -/

/-- Sources at the same place have the same resource files, which answer the same questions. -/
theorem Layout.resolve_samePlace [Platform] (h : Path.SamePlace source other) (fs : FileSystem)
    (locale : Text) : l.resolve fs source locale = l.resolve fs other locale := by
  have hdirectory : l.directory source = l.directory other := by
    rw [directory, directory, h.dirname]
  have hstem : stem source = stem other := h.stem
  have hlayers : ∀ (tags : List Text) (below : Entries),
      l.mergeLayers fs source below tags = l.mergeLayers fs other below tags := by
    intro tags
    induction tags with
    | nil =>
        intro below
        rfl
    | cons tag rest ih =>
        intro below
        simp only [mergeLayers, mergeLayer, hdirectory, hstem, ih]
  exact hlayers _ _

namespace Store

variable {s t : Store} {fs : FileSystem} {loader : Loader} {locale : Text} {entries : Entries}
  {sources : List Text}

/-! ## Sources in a row -/

/-- Load sources one after the other, whether the loads succeed or not. -/
def loadEach [Platform] (s : Store) (fs : FileSystem) (loader : Loader) (locale : Text) :
    List Text → List (Traced LoadError MappingId) × Store
  | [] => ([], s)
  | source :: rest =>
    let first := s.load fs loader ⟨source, none⟩ locale
    let others := first.2.loadEach fs loader locale rest
    (first.1 :: others.1, others.2)

/-- Loads of sources that fail in the same way. -/
theorem loadEach_of_unresolved [Platform] {resolved : Traced LoadError Entries} {e : LoadError}
    (hmiss : ∀ source ∈ sources, s.held loader.cache ⟨source, locale⟩ = none)
    (h : ∀ source ∈ sources, loader.layout.resolve fs source locale = resolved)
    (hresult : resolved.result = .error e) :
    (∀ load ∈ (s.loadEach fs loader locale sources).1,
        load.journal.calls = resolved.journal.calls) ∧
      (s.loadEach fs loader locale sources).1.map Traced.result =
        List.replicate sources.length (.error e) ∧
      (s.loadEach fs loader locale sources).2 = s := by
  induction sources with
  | nil => exact ⟨nofun, rfl, rfl⟩
  | cons source rest ih =>
      obtain ⟨hfirst, hrest⟩ := List.forall_mem_cons.1 hmiss
      obtain ⟨hresolve, hresolves⟩ := List.forall_mem_cons.1 h
      obtain ⟨hcalls, hresults, hstore⟩ := ih hrest hresolves
      rw [loadEach]
      dsimp only
      rw [load_of_unresolved hfirst (hresolve ▸ hresult)]
      exact ⟨List.forall_mem_cons.2 ⟨congrArg (·.journal.calls) hresolve, hcalls⟩,
        congrArg _ hresults, hstore⟩

/-- The mappings that were made for some keys in a row: each key has got one of its own with the
same entries, the cache remembers them in order, and what was there is still there. -/
structure OwnMappings (s t : Store) (cache : CacheId) (keys : List BundleKey) (entries : Entries)
    (ids : List MappingId) : Prop where
  numbered : ids = List.range' s.nextId keys.length
  remembered : t.cache cache = s.cache cache ++ keys.zip ids
  entries : ∀ id ∈ ids, t.entries id = entries
  grows : s.Grows t

/-- Loads of distinct sources that resolve to the same entries. -/
theorem loadEach_of_resolved [Platform] {resolved : Traced LoadError Entries}
    (hnodup : sources.Nodup)
    (hmiss : ∀ source ∈ sources, s.held loader.cache ⟨source, locale⟩ = none)
    (h : ∀ source ∈ sources, loader.layout.resolve fs source locale = resolved)
    (hresult : resolved.result = .ok entries) :
    (∀ load ∈ (s.loadEach fs loader locale sources).1,
        load.journal.calls = resolved.journal.calls) ∧
      ∃ ids, (s.loadEach fs loader locale sources).1.map Traced.result = ids.map .ok ∧
        s.OwnMappings (s.loadEach fs loader locale sources).2 loader.cache
          (sources.map (⟨·, locale⟩)) entries ids := by
  induction sources generalizing s with
  | nil => exact ⟨nofun, [], rfl, rfl, (List.append_nil _).symm, nofun, .refl s⟩
  | cons source rest ih =>
      obtain ⟨hnot, hnodup⟩ := List.nodup_cons.1 hnodup
      obtain ⟨hfirst, hrest⟩ := List.forall_mem_cons.1 hmiss
      obtain ⟨hresolve, hresolves⟩ := List.forall_mem_cons.1 h
      -- The other sources are still not remembered, as none of them is the first one.
      have hstill : ∀ other ∈ rest,
          (s.resolvedTo loader.cache ⟨source, locale⟩ entries).held loader.cache ⟨other, locale⟩ =
            none := by
        intro other hother
        rw [held_resolvedTo, if_neg]
        · exact hrest other hother
        · rintro ⟨-, hkey⟩
          exact hnot ((BundleKey.mk.inj hkey).1 ▸ hother)
      obtain ⟨hcalls, ids, hresults, hown⟩ := ih hnodup hstill hresolves
      rw [loadEach]
      dsimp only
      rw [load_of_resolved hfirst (hresolve ▸ hresult)]
      refine ⟨List.forall_mem_cons.2 ⟨congrArg (·.journal.calls) hresolve, hcalls⟩,
        s.nextId :: ids, congrArg _ hresults, ?_, ?_, ?_, ?_⟩
      · rw [hown.numbered, nextId_resolvedTo]
        rfl
      · rw [hown.remembered, cache_resolvedTo entries hfirst, if_pos rfl, List.append_assoc]
        rfl
      · refine List.forall_mem_cons.2 ⟨?_, hown.entries⟩
        have hknown : s.nextId < (s.resolvedTo loader.cache ⟨source, locale⟩ entries).nextId := by
          rw [nextId_resolvedTo]
          exact Nat.lt_succ_self _
        rw [hown.grows.entries hknown, entries_resolvedTo_nextId]
      · exact (grows_resolvedTo entries hfirst).trans hown.grows

/-! ## Spellings of a source -/

/-- A source and a spelling of it, neither of which is remembered, are loaded with the same
questions, to the same entries in the same order or the same error, whatever else the stores hold.
Yet if any number of distinct spellings are loaded one after the other, all of them ask these
questions, and each is remembered apart from the others with a mapping of its own; or all of them
fail, and nothing is remembered. -/
theorem load_respelled [Platform] (fs : FileSystem) (loader : Loader) (locale : Text)
    (h : Relation.EqvGen Path.Respelling source other)
    (hs : s.held loader.cache ⟨source, locale⟩ = none)
    (ht : t.held loader.cache ⟨other, locale⟩ = none) :
    let first := s.load fs loader ⟨source, none⟩ locale
    let second := t.load fs loader ⟨other, none⟩ locale
    first.1.journal.calls = second.1.journal.calls ∧
      first.1.result.map first.2.entries = second.1.result.map second.2.entries ∧
      ∀ spellings : List Text, spellings.Nodup →
        (∀ spelling ∈ spellings, Relation.EqvGen Path.Respelling source spelling ∧
          s.held loader.cache ⟨spelling, locale⟩ = none) →
        let each := s.loadEach fs loader locale spellings
        (∀ load ∈ each.1, load.journal.calls = first.1.journal.calls) ∧
          (∀ e, first.1.result = .error e →
            each.1.map Traced.result = List.replicate spellings.length (.error e) ∧
              each.2 = s) ∧
          ∀ id, first.1.result = .ok id →
            ∃ ids, each.1.map Traced.result = ids.map .ok ∧
              s.OwnMappings each.2 loader.cache (spellings.map (⟨·, locale⟩))
                (first.2.entries id) ids := by
  intro first second
  have hsame := Layout.resolve_samePlace (l := loader.layout) (Path.samePlace_of_eqvGen h) fs locale
  obtain ⟨hcalls, hgiven⟩ : first.1.journal.calls = _ ∧ first.1.result.map first.2.entries = _ :=
    load_of_missed fs hs
  obtain ⟨hcalls', hgiven'⟩ : second.1.journal.calls = _ ∧
      second.1.result.map second.2.entries = _ := load_of_missed fs ht
  refine ⟨?_, ?_, fun spellings hnodup hspellings => ?_⟩
  · rw [hcalls, hcalls', hsame]
  · rw [hgiven, hgiven', hsame]
  · have hmiss := fun spelling hmem => (hspellings spelling hmem).2
    have hresolves : ∀ spelling ∈ spellings, loader.layout.resolve fs spelling locale =
        loader.layout.resolve fs source locale := by
      intro spelling hmem
      have hspelling := Path.samePlace_of_eqvGen (hspellings spelling hmem).1
      exact (Layout.resolve_samePlace hspelling fs locale).symm
    rw [hcalls]
    cases hresult : (loader.layout.resolve fs source locale).result with
    | error e =>
        obtain ⟨hall, hresults, hstore⟩ := loadEach_of_unresolved hmiss hresolves hresult
        rw [hresult] at hgiven
        refine ⟨hall, fun e' herror => ?_, fun id hid => ?_⟩
        · rw [herror] at hgiven
          cases hgiven
          exact ⟨hresults, hstore⟩
        · rw [hid] at hgiven
          cases hgiven
    | ok entries =>
        obtain ⟨hall, ids, hresults, hown⟩ :=
          loadEach_of_resolved hnodup hmiss hresolves hresult
        rw [hresult] at hgiven
        refine ⟨hall, fun e herror => ?_, fun id hid => ?_⟩
        · rw [herror] at hgiven
          cases hgiven
        · rw [hid] at hgiven
          cases hgiven
          exact ⟨ids, hresults, hown⟩

/-- Spellings of the source of the menu: its own, with another extension, with backslashes as well,
and without an extension. -/
def menuSpellings : List Text :=
  [menuSource, "/app/menu.txt".toList, "\\app\\menu.txt".toList, "/app/menu".toList]

theorem eqvGen_menuSpellings :
    ∀ spelling ∈ menuSpellings, Relation.EqvGen Path.Respelling menuSource spelling := by
  have hpy : Path.IsExtension "py".toList := ⟨by decide, by decide, by decide⟩
  have htxt : Path.IsExtension "txt".toList := ⟨by decide, by decide, by decide⟩
  have hnamed : Path.IsNamed "/app/menu".toList := ⟨'m', by decide, by decide⟩
  have hnone : ∀ front x, ¬ Path.EndsWith "/app/menu".toList front x := by
    intro front x h
    exact Path.exists_endsWith_iff.1 ⟨front, x, h⟩ (by decide)
  have hreplaced : Path.Respelling menuSource "/app/menu.txt".toList :=
    .replaced ⟨rfl, hpy, hnamed⟩ htxt
  have hslashed : Path.Respelling "\\app\\menu.txt".toList "/app/menu.txt".toList := .slashed _
  have happended : Path.Respelling "/app/menu".toList menuSource := .appended hnone hnamed hpy
  intro spelling hmem
  simp only [menuSpellings, List.mem_cons, List.not_mem_nil, or_false] at hmem
  rcases hmem with rfl | rfl | rfl | rfl
  · exact .refl _
  · exact .rel _ _ hreplaced
  · exact .trans _ _ _ (.rel _ _ hreplaced) (.symm _ _ (.rel _ _ hslashed))
  · exact .symm _ _ (.rel _ _ happended)

theorem load_respelled_menu :
    Relation.EqvGen Path.Respelling menuSource "\\app\\menu.txt".toList ∧
      (empty.load menu.fileSystem englishLoader ⟨menuSource, none⟩ "de".toList).1.result.map
          (empty.load menu.fileSystem englishLoader ⟨menuSource, none⟩ "de".toList).2.entries =
        (empty.load menu.fileSystem englishLoader ⟨"\\app\\menu.txt".toList, none⟩
            "de".toList).1.result.map
          (empty.load menu.fileSystem englishLoader ⟨"\\app\\menu.txt".toList, none⟩
            "de".toList).2.entries ∧
      menuSpellings.Nodup ∧
      (∀ spelling ∈ menuSpellings, Relation.EqvGen Path.Respelling menuSource spelling ∧
        empty.held englishLoader.cache ⟨spelling, "de".toList⟩ = none) ∧
      (empty.loadEach menu.fileSystem englishLoader "de".toList menuSpellings).1.map
        Traced.result = [.ok 0, .ok 1, .ok 2, .ok 3] := by
  have hwindows := eqvGen_menuSpellings "\\app\\menu.txt".toList (by simp [menuSpellings])
  have hloaded : (empty.load menu.fileSystem englishLoader ⟨menuSource, none⟩
      "de".toList).1.result = .ok 0 := by cbv
  have hnodup : menuSpellings.Nodup := by decide
  have hspellings : ∀ spelling ∈ menuSpellings,
      Relation.EqvGen Path.Respelling menuSource spelling ∧
        empty.held englishLoader.cache ⟨spelling, "de".toList⟩ = none := by
    intro spelling hmem
    exact ⟨eqvGen_menuSpellings spelling hmem, rfl⟩
  obtain ⟨-, hgiven, heach⟩ := load_respelled (s := empty) (t := empty) menu.fileSystem
    englishLoader "de".toList hwindows rfl rfl
  obtain ⟨-, -, hmappings⟩ := heach menuSpellings hnodup hspellings
  obtain ⟨ids, hresults, hown⟩ := hmappings 0 hloaded
  refine ⟨hwindows, hgiven, hnodup, hspellings, ?_⟩
  rw [hresults, hown.numbered]
  rfl

end Store

end Phrasebook.Resources
