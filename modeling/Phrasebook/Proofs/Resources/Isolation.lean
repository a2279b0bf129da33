import Phrasebook.Proofs.Resources.LoadedLayers
import Phrasebook.Proofs.Resources.SoleFile
import Phrasebook.Proofs.Resources.WrittenFiles

/-!
# Files that two sources share

A hyphen stands between the stem and the tag of a file name, and the same sign stands between the
language and the region of a tag and may stand in a stem. So a name can be cut in two ways:
`menu-fr-en.json` is the English file of the stem `menu-fr`, and for the stem `menu` it is the file
of French for a region called `en`. The last hyphen of a name shows that there are no other ways:
two sources in one directory can only share a file if one stem is the other one with a hyphen and a
language behind it, where the language is one that the shorter stem is loaded for. In that case
they do share one in some directory.
-/

namespace Phrasebook.Resources

/-! ## Languages and locales -/

/-- Two ASCII letters. -/
def isLanguage : Text → Bool
  | [a, b] => a.isAlpha && b.isAlpha
  | _ => false

/-- A language, or a language and a region of two letters with a hyphen between them. -/
def isPlainLocale : Text → Bool
  | [a, b, hyphen, c, d] => isLanguage [a, b] && hyphen == '-' && isLanguage [c, d]
  | locale => isLanguage locale

variable {l : Layout} {fs : FileSystem} {source tag path locale : Text}

theorem length_of_isLanguage (h : isLanguage tag = true) : tag.length = 2 := by
  unfold isLanguage at h
  split at h
  · rfl
  · cases h

theorem isAsciiWord_of_isAlpha {c : Char} (h : c.isAlpha = true) : Text.isAsciiWord c = true := by
  simp only [Char.isAlpha, Char.isUpper, Char.isLower, Bool.or_eq_true, Bool.and_eq_true,
    decide_eq_true_eq] at h
  simp only [Text.isAsciiWord, Bool.or_eq_true, Bool.and_eq_true, decide_eq_true_eq]
  rcases h with hupper | hlower
  · exact .inl (.inl (.inr hupper))
  · exact .inl (.inl (.inl hlower))

theorem all_isAsciiWord_of_isLanguage (h : isLanguage tag = true) :
    tag.all Text.isAsciiWord = true := by
  unfold isLanguage at h
  split at h
  · rw [Bool.and_eq_true] at h
    simp [isAsciiWord_of_isAlpha h.1, isAsciiWord_of_isAlpha h.2]
  · cases h

theorem hyphen_not_mem_word {word : Text} (h : word.all Text.isAsciiWord = true) :
    '-' ∉ word := by
  intro hmem
  have hword := List.all_eq_true.1 h _ hmem
  simp [Text.isAsciiWord] at hword

theorem hyphen_not_mem_language {language : Text} (h : isLanguage language = true) :
    '-' ∉ language :=
  hyphen_not_mem_word (all_isAsciiWord_of_isLanguage h)

/-- A plain locale begins with a language, and a word without a hyphen is all that may follow. -/
theorem language_of_isPlainLocale (h : isPlainLocale locale = true) :
    isLanguage (Layout.language locale) = true ∧ (locale = Layout.language locale ∨
      ∃ region, '-' ∉ region ∧ locale = Layout.language locale ++ '-' :: region) := by
  unfold isPlainLocale at h
  split at h
  · rename_i a b hyphen c d
    simp only [Bool.and_eq_true, beq_iff_eq] at h
    obtain ⟨⟨hlanguage, rfl⟩, hregion⟩ := h
    exact ⟨hlanguage, .inr ⟨[c, d],
      hyphen_not_mem_word (all_isAsciiWord_of_isLanguage hregion), rfl⟩⟩
  · have hlength := length_of_isLanguage h
    have hwhole : Layout.language locale = locale := List.take_of_length_le (by omega)
    rw [hwhole]
    exact ⟨h, .inl rfl⟩

/-- The languages that a locale is resolved for. -/
def Layout.languages (l : Layout) (locale : Text) : List Text :=
  [l.baseLang, language locale]

theorem Layout.mem_tags_iff_languages :
    tag ∈ l.tags locale ↔ tag ∈ l.languages locale ∨ tag = locale := by
  simp only [mem_tags_iff, languages, List.mem_cons, List.not_mem_nil, or_false, or_assoc]

/-- What holds of the base language and of every language of two letters holds of the languages of
a plain locale. -/
theorem Layout.forall_mem_languages {P : Text → Prop} (hbase : P l.baseLang)
    (hlanguage : ∀ {language}, isLanguage language = true → P language)
    (hlocale : isPlainLocale locale = true) (h : tag ∈ l.languages locale) : P tag := by
  rcases List.mem_cons.1 h with rfl | hlast
  · exact hbase
  · rw [List.mem_singleton.1 hlast]
    exact hlanguage (language_of_isPlainLocale hlocale).1

/-- A tag of a plain locale is one of its languages, or one with a word behind it. -/
theorem Layout.cut_of_mem_tags (hlocale : isPlainLocale locale = true)
    (h : tag ∈ l.tags locale) : tag ∈ l.languages locale ∨
      ∃ language ∈ l.languages locale, ∃ word, '-' ∉ word ∧ tag = language ++ '-' :: word := by
  have hlast : language locale ∈ l.languages locale :=
    List.mem_cons_of_mem _ (List.mem_singleton_self _)
  rcases mem_tags_iff_languages.1 h with hlanguage | rfl
  · exact .inl hlanguage
  · rcases (language_of_isPlainLocale hlocale).2 with hwhole | ⟨word, hword, hcut⟩
    · exact .inl (List.mem_cons_of_mem _ (List.mem_singleton.2 hwhole))
    · exact .inr ⟨language tag, hlast, word, hword, hcut⟩

/-! ## Names -/

/-- A name that a language gives to a file of a stem: that of its own file, or that with a word
behind the language. -/
inductive IsNameFor (stem language : Text) : Text → Prop
  | own : IsNameFor stem language (fileName stem language)
  | word {word : Text} (h : '-' ∉ word) :
      IsNameFor stem language (fileName stem (language ++ '-' :: word))

theorem IsNameFor.head?_ne {stem language name : Text} (h : IsNameFor stem language name)
    (hstem : '/' ∉ stem) : name.head? ≠ some '/' := by
  cases h with
  | own => exact head?_fileName hstem _
  | word => exact head?_fileName hstem _

/-- The last hyphen of a text cuts it in one way. -/
theorem append_hyphen_inj {a b v w : Text} (hv : '-' ∉ v) (hw : '-' ∉ w) :
    a ++ '-' :: v = b ++ '-' :: w ↔ a = b ∧ v = w := by
  constructor
  · intro h
    rcases List.append_eq_append_iff.1 h with ⟨c, rfl, hrest⟩ | ⟨c, rfl, hrest⟩
    · cases c with
      | nil => simpa using hrest
      | cons d c =>
          have htail : v = c ++ '-' :: w := (List.cons.inj hrest).2
          exact absurd (htail ▸ List.mem_append_right c List.mem_cons_self) hv
    · cases c with
      | nil => simpa [eq_comm] using hrest
      | cons d c =>
          have htail : w = c ++ '-' :: v := (List.cons.inj hrest).2
          exact absurd (htail ▸ List.mem_append_right c List.mem_cons_self) hw
  · rintro ⟨rfl, rfl⟩
    rfl

theorem fileName_eq (stem tag : Text) :
    fileName stem tag = stem ++ '-' :: tag ++ extension := by
  simp [fileName]

theorem fileName_word (stem language word : Text) :
    fileName stem (language ++ '-' :: word) =
      stem ++ '-' :: language ++ '-' :: word ++ extension := by
  simp [fileName]

/-- A name that languages give to files of two stems: the stems are the same, or one is the other
with its language behind it. -/
theorem IsNameFor.eq_or_extends {stem other k m name name' : Text} (hk : '-' ∉ k)
    (hm : '-' ∉ m) (h : IsNameFor stem k name) (hother : IsNameFor other m name')
    (hname : name = name') :
    stem = other ∨ other = stem ++ '-' :: k ∨ stem = other ++ '-' :: m := by
  cases h with
  | own =>
      cases hother with
      | own =>
          rw [fileName_eq, fileName_eq, List.append_left_inj,
            append_hyphen_inj hk hm] at hname
          exact .inl hname.1
      | word hword =>
          rw [fileName_eq, fileName_word, List.append_left_inj,
            append_hyphen_inj hk hword] at hname
          exact .inr (.inr hname.1)
  | word hword =>
      cases hother with
      | own =>
          rw [fileName_word, fileName_eq, List.append_left_inj,
            append_hyphen_inj hword hm] at hname
          exact .inr (.inl hname.1.symm)
      | word hword' =>
          rw [fileName_word, fileName_word, List.append_left_inj, append_hyphen_inj hword hword',
            append_hyphen_inj hk hm] at hname
          exact .inl hname.1.1

/-! ## Names of selected files -/

/-- A file that is selected for a plain locale has a name that one of its languages gives. -/
theorem Layout.Selects.exists_name (h : l.Selects fs source tag path)
    (hlength : l.baseLang.length = 2) (hlocale : isPlainLocale locale = true)
    (htag : tag ∈ l.tags locale) : ∃ language ∈ l.languages locale, ∃ name,
      IsNameFor (stem source) language name ∧ path = Path.join (l.directory source) name := by
  rcases cut_of_mem_tags hlocale htag with hmem | ⟨language, hmem, word, hword, rfl⟩
  · rcases name_of_findFile h.file with hown | ⟨-, region, hregion, hname⟩
    · exact ⟨tag, hmem, _, .own, hown⟩
    · exact ⟨tag, hmem, _, .word (hyphen_not_mem_word hregion), hname⟩
  · rcases name_of_findFile h.file with hown | ⟨hregion, -⟩
    · exact ⟨language, hmem, _, .word hword, hown⟩
    · have htwo : language.length = 2 :=
        forall_mem_languages hlength length_of_isLanguage hlocale hmem
      rw [List.length_append, List.length_cons, htwo] at hregion
      omega

/-! ## Loads -/

/-- For a locale the files of a stem reach those of another one: that is the stem with a hyphen and
a language behind it for which the locale is resolved. -/
def Layout.Reaches (l : Layout) (locale stem other : Text) : Prop :=
  ∃ language ∈ l.languages locale, other = stem ++ '-' :: language

variable {other locale' : Text}

/-- Sources with different stems that select one file for plain locales reach each other. -/
theorem Layout.Selects.reaches {tag' : Text} (h : l.Selects fs source tag path)
    (hother : l.Selects fs other tag' path) (hlength : l.baseLang.length = 2)
    (hbase : '-' ∉ l.baseLang)
    (hlocale : isPlainLocale locale = true) (hlocale' : isPlainLocale locale' = true)
    (htag : tag ∈ l.tags locale) (htag' : tag' ∈ l.tags locale')
    (hdirectory : l.directory source = l.directory other) (hstem : stem source ≠ stem other) :
    l.Reaches locale (stem source) (stem other) ∨ l.Reaches locale' (stem other) (stem source) := by
  obtain ⟨k, hk, name, hname, hpath⟩ := h.exists_name hlength hlocale htag
  obtain ⟨m, hm, name', hname', hpath'⟩ := hother.exists_name hlength hlocale' htag'
  have hsame : name = name' := by
    rw [hpath, hdirectory] at hpath'
    exact (Path.join_inj (hname.head?_ne (slash_not_mem_stem source))
      (hname'.head?_ne (slash_not_mem_stem other))).1 hpath'
  have hyphen_k : '-' ∉ k := forall_mem_languages hbase hyphen_not_mem_language hlocale hk
  have hyphen_m : '-' ∉ m := forall_mem_languages hbase hyphen_not_mem_language hlocale' hm
  rcases hname.eq_or_extends hyphen_k hyphen_m hname' hsame with heq | hreach | hreach
  · exact absurd heq hstem
  · exact .inl ⟨k, hk, hreach⟩
  · exact .inr ⟨m, hm, hreach⟩

/-- The text of an object without members. -/
def emptyObject : Text := ['\x7b', '\x7d']

/-- A load reads the only file of a directory if a tag of its locale looks for the name of it. -/
theorem read_mem_load_sole [Platform] {name : Text} (hname : name.head? ≠ some '/')
    (htag : tag ∈ l.tags locale) (hlooks : LooksFor (stem source) tag name) (cache : CacheId) :
    .read (Path.join (l.directory source) name) ∈
      (Store.empty.load (.sole (l.directory source) name emptyObject) ⟨l, cache⟩ ⟨source, none⟩
        locale).1.journal.calls := by
  have hselects : l.Selects (.sole (l.directory source) name emptyObject) source tag
      (Path.join (l.directory source) name) := (selects_sole_iff hname emptyObject tag).2 hlooks
  have hparse : (parseFile (Path.join (l.directory source) name) (.ok emptyObject)).result =
      .ok [] := parseFile_write Dict.nodup_keys_nil _
  rcases resolve_sole hname hparse Dict.nodup_keys_nil locale with ⟨-, hresolve⟩ | ⟨hnone, -⟩
  · exact Store.read_mem_load rfl hresolve htag hselects
  · exact absurd hlooks (hnone tag htag)

/-- Where the files of a source reach those of another one, a directory with a single file makes
loads of both of them read it. -/
theorem Layout.Reaches.exists_shared [Platform] (h : l.Reaches locale (stem source) (stem other))
    (hlength : l.baseLang.length = 2) (hlocale : isPlainLocale locale = true)
    (hlocale' : isPlainLocale locale' = true)
    (hdirectory : l.directory source = l.directory other) (cache : CacheId) :
    ∃ fs path, .read path ∈
        (Store.empty.load fs ⟨l, cache⟩ ⟨source, none⟩ locale).1.journal.calls ∧
      .read path ∈ (Store.empty.load fs ⟨l, cache⟩ ⟨other, none⟩ locale').1.journal.calls := by
  obtain ⟨k, hk, hstem⟩ := h
  obtain ⟨hm, -⟩ := language_of_isPlainLocale hlocale'
  let m := language locale'
  let name := fileName (stem other) m
  have hname : name.head? ≠ some '/' := head?_fileName (slash_not_mem_stem other) m
  refine ⟨.sole (l.directory source) name emptyObject, Path.join (l.directory source) name, ?_, ?_⟩
  · -- The language of the other locale is a word, so its file is one for a region of the first.
    have hvariant : isVariant (stem source) k name = true := by
      refine isVariant_iff.2 ⟨m, ?_, all_isAsciiWord_of_isLanguage hm, ?_⟩
      · intro hnil
        have htwo : m.length = 2 := length_of_isLanguage hm
        rw [hnil] at htwo
        cases htwo
      · simp [name, hstem, fileName]
    have htwo : k.length = 2 := forall_mem_languages hlength length_of_isLanguage hlocale hk
    have htag : k ∈ l.tags locale := mem_tags_iff_languages.2 (.inl hk)
    exact read_mem_load_sole hname htag (.inr ⟨htwo, hvariant⟩) cache
  · rw [hdirectory]
    have htag : m ∈ l.tags locale' := mem_tags_iff.2 (.inr (.inl rfl))
    exact read_mem_load_sole hname htag (.inl rfl) cache

/-- Two sources with resource files in one directory and with different stems have no file in
common, whatever is in the directory, exactly if neither reaches the other for the locale that it
is loaded for. -/
theorem reads_disjoint_iff [Platform] {loader : Loader}
    (hlength : loader.layout.baseLang.length = 2) (hbase : '-' ∉ loader.layout.baseLang)
    (hdirectory : loader.layout.directory source = loader.layout.directory other)
    (hstem : stem source ≠ stem other) (hlocale : isPlainLocale locale = true)
    (hlocale' : isPlainLocale locale' = true) :
    (∀ (fs : FileSystem) (s t : Store) (path : Text),
      .read path ∈ (s.load fs loader ⟨source, none⟩ locale).1.journal.calls →
      .read path ∉ (t.load fs loader ⟨other, none⟩ locale').1.journal.calls) ↔
    ¬ loader.layout.Reaches locale (stem source) (stem other) ∧
      ¬ loader.layout.Reaches locale' (stem other) (stem source) := by
  constructor
  · intro h
    refine ⟨?_, ?_⟩
    · intro hreaches
      obtain ⟨fs, path, hread, hread'⟩ :=
        hreaches.exists_shared hlength hlocale hlocale' hdirectory loader.cache
      exact h fs .empty .empty path hread hread'
    · intro hreaches
      obtain ⟨fs, path, hread', hread⟩ :=
        hreaches.exists_shared hlength hlocale' hlocale hdirectory.symm loader.cache
      exact h fs .empty .empty path hread hread'
  · rintro ⟨hnot, hnot'⟩ fs s t path hread hread'
    obtain ⟨tag, htag, hselects, -⟩ := Store.exists_selects_of_load hread
    obtain ⟨tag', htag', hselects', -⟩ := Store.exists_selects_of_load hread'
    rcases hselects.reaches hselects' hlength hbase hlocale hlocale' htag htag' hdirectory
      hstem with hreaches | hreaches
    · exact hnot hreaches
    · exact hnot' hreaches

/-- The source whose stem is that of the menu with French behind it. -/
def frenchMenuSource : Text := "/app/menu-fr.py".toList

/-- The menu in German and the other source in French have no file in common. -/
theorem reads_disjoint_iff_menu :
    englishLoader.layout.baseLang.length = 2 ∧ '-' ∉ englishLoader.layout.baseLang ∧
    englishLoader.layout.directory menuSource = englishLoader.layout.directory frenchMenuSource ∧
    stem menuSource ≠ stem frenchMenuSource ∧
    isPlainLocale "de-AT".toList = true ∧ isPlainLocale "fr".toList = true ∧
    ∀ (fs : FileSystem) (s t : Store) (path : Text),
      .read path ∈ (s.load fs englishLoader ⟨menuSource, none⟩ "de-AT".toList).1.journal.calls →
      .read path ∉
        (t.load fs englishLoader ⟨frenchMenuSource, none⟩ "fr".toList).1.journal.calls := by
  have hlength : englishLoader.layout.baseLang.length = 2 := by decide
  have hbase : '-' ∉ englishLoader.layout.baseLang := by decide
  have hdirectory : englishLoader.layout.directory menuSource =
      englishLoader.layout.directory frenchMenuSource := by decide
  have hstem : stem menuSource ≠ stem frenchMenuSource := by decide
  have haustrian : isPlainLocale "de-AT".toList = true := by decide
  have hfrench : isPlainLocale "fr".toList = true := by decide
  have hnot : ¬ englishLoader.layout.Reaches "de-AT".toList (stem menuSource)
      (stem frenchMenuSource) := by
    unfold Layout.Reaches
    decide
  have hnot' : ¬ englishLoader.layout.Reaches "fr".toList (stem frenchMenuSource)
      (stem menuSource) := by
    unfold Layout.Reaches
    decide
  exact ⟨hlength, hbase, hdirectory, hstem, haustrian, hfrench,
    (reads_disjoint_iff hlength hbase hdirectory hstem haustrian hfrench).2 ⟨hnot, hnot'⟩⟩

/-- The English texts of the source that is named as the menu with French behind it. -/
def hyphenatedMenu : Flat where
  files := [("/app/resources/menu-fr-en.json".toList,
    asciiBytes "\x7b\"greeting\": \"Bonjour\"\x7d")]
  directories := []

/-- The menu in French reads the English file of the other source and serves its texts. -/
theorem load_reads_other_source :
    englishLoader.layout.baseLang.length = 2 ∧ '-' ∉ englishLoader.layout.baseLang ∧
    englishLoader.layout.directory menuSource = englishLoader.layout.directory frenchMenuSource ∧
    stem menuSource ≠ stem frenchMenuSource ∧
    isPlainLocale "fr".toList = true ∧ isPlainLocale "en".toList = true ∧
    .read "/app/resources/menu-fr-en.json".toList ∈
      (Store.empty.load hyphenatedMenu.fileSystem englishLoader ⟨menuSource, none⟩
        "fr".toList).1.journal.calls ∧
    .read "/app/resources/menu-fr-en.json".toList ∈
      (Store.empty.load hyphenatedMenu.fileSystem englishLoader ⟨frenchMenuSource, none⟩
        "en".toList).1.journal.calls ∧
    (Store.empty.load hyphenatedMenu.fileSystem englishLoader ⟨menuSource, none⟩
      "fr".toList).2.entries 0 = [("greeting".toList, some "Bonjour".toList)] := by
  refine ⟨by decide, by decide, by decide, by decide, by decide, by decide, ?_, ?_, by cbv⟩
  · refine List.mem_of_getLast? ?_
    cbv
  · refine List.mem_of_getLast? ?_
    cbv

end Phrasebook.Resources
