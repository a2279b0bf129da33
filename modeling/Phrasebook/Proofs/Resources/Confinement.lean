import Phrasebook.Proofs.Resources.Reads

/-!
# Where the files that are read lie

The name of a resource file begins with the stem of its source, and then come a tag and an ending.
The stem and the ending have no slash, so a file that is read lies directly in the directory of the
resource files exactly if the tag that selects it has no slash. Nothing else is asked of a tag: a
locale with a slash makes tags with a slash, and those reach into other directories.
-/

namespace Phrasebook.Path

variable {directory name other : Text}

/-- A path is that of a directory joined with a single name. -/
def IsInside (directory path : Text) : Prop :=
  ∃ name, '/' ∉ name ∧ path = join directory name

theorem slash_not_mem_basename (path : Text) : '/' ∉ basename path := by
  intro h
  have hall := List.all_takeWhile (p := (!isSlash ·)) (l := path.reverse)
  have hslash := List.all_eq_true.1 hall _ (List.mem_reverse.1 h)
  simp [isSlash] at hslash

theorem mem_of_mem_stem {c : Char} (h : c ∈ stem name) : c ∈ name := by
  rw [stem] at h
  split at h
  · exact h
  · rename_i front heq
    split at h
    · exact h
    · have hdrop := (List.dropWhile_suffix (l := name.reverse) (· != '.')).subset
      rw [heq] at hdrop
      exact List.mem_reverse.1 (hdrop (List.mem_cons_of_mem _ (List.mem_reverse.1 h)))

/-- Names that do not start at the root are joined to a directory one to one. -/
theorem join_inj (hname : name.head? ≠ some '/') (hother : other.head? ≠ some '/') :
    join directory name = join directory other ↔ name = other := by
  rw [join, join, if_neg hname, if_neg hother]
  split
  · exact List.append_right_inj directory
  · rw [List.append_right_inj, List.cons.injEq]
    exact and_iff_right rfl

theorem isInside_join_iff (h : name.head? ≠ some '/') :
    IsInside directory (join directory name) ↔ '/' ∉ name := by
  constructor
  · rintro ⟨other, hother, heq⟩
    have hhead : other.head? ≠ some '/' := by
      intro hfirst
      exact hother (List.mem_of_head? hfirst)
    rw [(join_inj h hhead).1 heq]
    exact hother
  · intro hname
    exact ⟨name, hname, rfl⟩

end Phrasebook.Path

namespace Phrasebook.Resources

variable {l : Layout} {fs : FileSystem} {source tag path : Text}

theorem slash_not_mem_stem (source : Text) : '/' ∉ stem source := by
  intro h
  exact Path.slash_not_mem_basename _ (Path.mem_of_mem_stem h)

theorem slash_not_mem_extension : '/' ∉ extension := by
  simp [extension]

/-- A name for a region is that for the tag with a hyphen and the region behind it. -/
theorem isVariant_iff {stem name : Text} : isVariant stem tag name = true ↔
    ∃ region, region ≠ [] ∧ region.all Text.isAsciiWord = true ∧
      name = fileName stem (tag ++ '-' :: region) := by
  have hname : ∀ region, fileName stem (tag ++ '-' :: region) =
      stem ++ ['-'] ++ tag ++ ['-'] ++ (region ++ extension) := by
    intro region
    simp [fileName]
  constructor
  · intro h
    rw [isVariant] at h
    split at h
    · cases h
    · rename_i rest hrest
      split at h
      · cases h
      · rename_i region hregion
        obtain ⟨hne, hword⟩ := Bool.and_eq_true_iff.1 h
        rw [Text.dropBeginning?_eq_some_iff] at hrest
        rw [Text.dropEnding?_eq_some_iff] at hregion
        refine ⟨region, ?_, hword, ?_⟩
        · rintro rfl
          cases hne
        · rw [hname, hrest, hregion]
  · rintro ⟨region, hne, hword, rfl⟩
    have hbegin := Text.dropBeginning?_eq_some_iff.2 (hname region)
    have hend : Text.dropEnding? extension (region ++ extension) = some region :=
      Text.dropEnding?_eq_some_iff.2 rfl
    rw [isVariant, hbegin]
    dsimp only
    rw [hend, Bool.and_eq_true]
    refine ⟨?_, hword⟩
    rw [Bool.not_eq_true', List.isEmpty_eq_false_iff]
    exact hne

theorem slash_not_mem_region {region : Text} (h : region.all Text.isAsciiWord = true) :
    '/' ∉ region := by
  intro hmem
  have hword := List.all_eq_true.1 h _ hmem
  simp [Text.isAsciiWord] at hword

theorem least?_mem {names : List Text} {name : Text} (h : least? names = some name) :
    name ∈ names := by
  induction names generalizing name with
  | nil => cases h
  | cons first rest ih =>
      rw [least?] at h
      split at h
      · cases h
        exact List.mem_cons_self
      · rename_i other hother
        cases h
        split
        · exact List.mem_cons_of_mem _ (ih hother)
        · exact List.mem_cons_self

/-- A file that is found is named for its tag, or for a region of a tag of two characters. -/
theorem name_of_findFile {directory stem : Text}
    (h : (findFile fs directory stem tag).result = .ok (some path)) :
    path = Path.join directory (fileName stem tag) ∨ tag.length = 2 ∧ ∃ region,
      region.all Text.isAsciiWord = true ∧
        path = Path.join directory (fileName stem (tag ++ '-' :: region)) := by
  unfold findFile at h
  dsimp only at h
  obtain ⟨there, -, h⟩ := Traced.result_bind_eq_ok_iff.1 h
  split at h
  · cases h
    exact .inl rfl
  · split at h
    · cases h
    · rename_i hlength
      obtain ⟨names, -, h⟩ := Traced.result_bind_eq_ok_iff.1 h
      split at h
      · cases h
      · rename_i name hname
        obtain ⟨_, -, h⟩ := Traced.result_bind_eq_ok_iff.1 h
        cases h
        obtain ⟨-, hvariant⟩ := List.mem_filter.1 (least?_mem hname)
        obtain ⟨region, -, hregion, rfl⟩ := isVariant_iff.1 hvariant
        exact .inr ⟨Decidable.not_not.1 hlength, region, hregion, rfl⟩

/-- A file that is found is named by the tag with an ending that has no slash. -/
theorem exists_ending_of_findFile {directory stem : Text}
    (h : (findFile fs directory stem tag).result = .ok (some path)) :
    ∃ ending, '/' ∉ ending ∧ path = Path.join directory (stem ++ '-' :: (tag ++ ending)) := by
  rcases name_of_findFile h with rfl | ⟨-, region, hregion, rfl⟩
  · refine ⟨extension, slash_not_mem_extension, ?_⟩
    simp [fileName]
  · refine ⟨'-' :: (region ++ extension), ?_, ?_⟩
    · simp [slash_not_mem_region hregion, slash_not_mem_extension]
    · simp [fileName]

/-- A selected file lies directly in the directory exactly if its tag has no slash. -/
theorem Layout.Selects.isInside_iff (h : l.Selects fs source tag path) :
    Path.IsInside (l.directory source) path ↔ '/' ∉ tag := by
  obtain ⟨ending, hending, rfl⟩ := exists_ending_of_findFile h.file
  have hstem := slash_not_mem_stem source
  have hhead : (stem source ++ '-' :: (tag ++ ending)).head? ≠ some '/' := by
    cases hs : stem source with
    | nil => simp
    | cons c rest =>
        rintro hslash
        cases hslash
        exact hstem (hs ▸ List.mem_cons_self)
  rw [Path.isInside_join_iff hhead]
  simp [hstem, hending]

/-- The tags of a locale have no slash if the locale and the base language have none. -/
theorem Layout.slash_not_mem_of_mem_tags {locale : Text} (hbase : '/' ∉ l.baseLang)
    (hlocale : '/' ∉ locale) (htag : tag ∈ l.tags locale) : '/' ∉ tag := by
  rcases mem_tags_iff.1 htag with rfl | rfl | rfl
  · exact hbase
  · exact fun h => hlocale (List.mem_of_mem_take h)
  · exact hlocale

/-! ## Loads -/

namespace Store

variable [Platform] {s : Store} {loader : Loader} {bundle : Bundle} {locale : Text}

/-- A load that does anything resolves its locale. -/
theorem mem_resolve_of_mem_load {call : FileCall}
    (h : call ∈ (s.load fs loader bundle locale).1.journal.calls) :
    call ∈ (loader.layout.resolve fs bundle.source locale).journal.calls := by
  obtain ⟨source, precomputed⟩ := bundle
  cases precomputed with
  | some id => cases h
  | none =>
      cases hcached : (s.cache loader.cache).get? ⟨source, locale⟩ with
      | some id =>
          rw [load_of_cached hcached] at h
          cases h
      | none =>
          cases hresolve : (loader.layout.resolve fs source locale).result with
          | error e =>
              rw [load_of_unresolved hcached hresolve] at h
              exact h
          | ok entries =>
              rw [load_of_resolved hcached hresolve] at h
              exact h

/-- A file that a load reads is selected by a tag of the locale, and it lies directly in the
directory exactly if the tag has no slash. -/
theorem exists_selects_of_load (h : .read path ∈ (s.load fs loader bundle locale).1.journal.calls) :
    ∃ tag ∈ loader.layout.tags locale, loader.layout.Selects fs bundle.source tag path ∧
      (Path.IsInside (loader.layout.directory bundle.source) path ↔ '/' ∉ tag) := by
  obtain ⟨tag, htag, hselects⟩ := Layout.exists_selects_of_read (mem_resolve_of_mem_load h)
  exact ⟨tag, htag, hselects, hselects.isInside_iff⟩

end Store

end Phrasebook.Resources
