import Phrasebook.Proofs.Json.Acceptance
import Phrasebook.Proofs.Resources.LoadedLayers
import Phrasebook.Proofs.Resources.Reads

/-!
# Files that hold no resources

A file holds resources if its bytes are a text, the text is JSON, and its value is an object of
texts and nulls. A load reports the first file, in the order of the tags, of which this is not so,
with one exception: the JSON reader has limits of its own, and a file beyond them ends a load with
the reader's error, whether it holds resources or not.
-/

namespace Phrasebook.Resources

/-! ## What is wrong with a file -/

/-- What was read from a file holds no resources, for a reason. -/
inductive HasFault [Platform] : Except ReadError Text → Malformation → Prop
  /-- The bytes are no text. -/
  | undecodable (failure : Text.Utf8.Failure) :
      HasFault (.error (.undecodable failure)) (.undecodable failure)
  /-- The text is no JSON. -/
  | unparsable {text : Text} {fault : Json.Fault} {position : Json.Position}
      (h : ∀ v, ¬ Json.IsJson text v) : HasFault (.ok text) (.unparsable fault position)
  /-- The value is no object. -/
  | notObject {text : Text} {v : Json} (h : Json.IsJson text v)
      (hv : ∀ members, v ≠ .object members) : HasFault (.ok text) .notObject
  /-- A value in the object is neither a string nor null. -/
  | notTexts {text : Text} {members : List (Text × Json)} {key : Text} {v : Json}
      (h : Json.IsJson text (.object members)) (hmem : (key, v) ∈ members)
      (hv : ∀ written, v ≠ writtenAs written) : HasFault (.ok text) .notTexts

/-- What was read from a file is beyond the limits of the JSON reader. -/
def ExceedsLimits [Platform] (content : Except ReadError Text) : Prop :=
  ∃ text, content = .ok text ∧ ¬ Json.WithinLimits text

/-- What was read from a file holds resources within the limits of the JSON reader. -/
def IsProper [Platform] (content : Except ReadError Text) : Prop :=
  (∀ reason, ¬ HasFault content reason) ∧ ¬ ExceedsLimits content

theorem entries?_eq_none {members : List (Text × Json)} (h : entries? members = none) :
    ∃ key v, (key, v) ∈ members ∧ ∀ written, v ≠ writtenAs written := by
  induction members with
  | nil => cases h
  | cons member rest ih =>
      obtain ⟨key, v⟩ := member
      cases hrest : entries? rest with
      | none =>
          obtain ⟨other, w, hmem, hw⟩ := ih hrest
          exact ⟨other, w, List.mem_cons_of_mem _ hmem, hw⟩
      | some entries =>
          refine ⟨key, v, List.mem_cons_self, ?_⟩
          rintro (_ | text) rfl
          · simp [entries?, writtenAs, hrest] at h
          · simp [entries?, writtenAs, hrest] at h

/-- A file of which the entries are taken is proper. -/
theorem isProper_of_parseFile [Platform] {path : Text} {content : Except ReadError Text}
    {entries : Entries}
    (h : (parseFile path content).result = .ok entries) : IsProper content := by
  obtain ⟨text, members, rfl, hread, hentries⟩ := parseFile_eq_ok h
  obtain ⟨hjson, hlimits⟩ := Json.read_eq_ok_iff.1 hread
  -- Within the limits a text is JSON for one value alone.
  have hunique : ∀ v, Json.IsJson text v → v = .object members := by
    intro v hv
    have hother := Json.read_eq_ok_iff.2 ⟨hv, hlimits⟩
    rw [hread] at hother
    cases hother
    rfl
  constructor
  · intro reason hfault
    cases hfault with
    | unparsable h => exact h _ hjson
    | notObject h hv => exact hv _ (hunique _ h)
    | notTexts h hmem hv =>
        cases hunique _ h
        rw [entries?_eq_some hentries] at hmem
        obtain ⟨⟨key, written⟩, -, heq⟩ := List.mem_map.1 hmem
        cases heq
        exact hv written rfl
  · rintro ⟨other, heq, hexceeds⟩
    cases heq
    exact hexceeds hlimits

/-- What the error for a file says about what was read from it. -/
inductive Explains [Platform] (path : Text) (content : Except ReadError Text) : LoadError → Prop
  | malformed {reason : Malformation} (h : HasFault content reason) :
      Explains path content (.malformed path reason)
  | numeralTooLong {n : Nat} (h : ExceedsLimits content) :
      Explains path content (.numeralTooLong n)
  | tooDeep {container : Json.Container} (h : ExceedsLimits content) :
      Explains path content (.tooDeep container)

theorem explains_of_parseFile [Platform] {path : Text} {content : Except ReadError Text}
    {e : LoadError}
    (hfile : ∀ cause, content ≠ .error (.file cause))
    (h : (parseFile path content).result = .error e) : Explains path content e := by
  unfold parseFile at h
  dsimp only at h
  split at h
  · exact absurd rfl (hfile _)
  · rename_i failure
    cases h
    exact .malformed (.undecodable failure)
  · rename_i text
    split at h
    · rename_i hread
      cases h
      exact .malformed (.unparsable (Json.not_isJson_of_malformed hread))
    · rename_i n hread
      cases h
      refine .numeralTooLong ⟨text, rfl, ?_⟩
      intro hlimits
      exact hlimits.digits n (Json.mem_tokens_of_read hread)
    · rename_i hread
      cases h
      refine .tooDeep ⟨text, rfl, ?_⟩
      intro hlimits
      exact Nat.not_lt.2 hlimits.depth (Json.deepest_of_read hread)
    · rename_i members hread
      have hjson := (Json.read_eq_ok_iff.1 hread).1
      split at h
      · cases h
      · rename_i hentries
        obtain ⟨key, v, hmem, hv⟩ := entries?_eq_none hentries
        cases h
        exact .malformed (.notTexts hjson hmem hv)
    · rename_i v hobject hread
      have hjson := (Json.read_eq_ok_iff.1 hread).1
      cases h
      refine .malformed (.notObject hjson ?_)
      rintro members rfl
      exact hobject _ rfl

/-! ## The first file that is not proper -/

variable {l : Layout} {fs : FileSystem} {source locale tag : Text}

/-- The directory of the resource files of a source is a directory or missing, it can be asked for
every file of a locale by its name, and every file that a tag of the locale selects can be read. -/
structure Layout.Answers (l : Layout) (fs : FileSystem) (source locale : Text) : Prop where
  directory : ∃ there, fs.present (l.directory source) = .ok there
  names : fs.present (l.directory source) = .ok true →
    ∃ names, fs.list (l.directory source) = .ok names
  file : ∀ tag ∈ l.tags locale,
    ∃ there, fs.present (Path.join (l.directory source) (fileName (stem source) tag)) = .ok there
  readable : ∀ tag ∈ l.tags locale, ∀ path, l.Selects fs source tag path →
    ∀ cause, fs.read path ≠ .error (.file cause)

/-- A tag of the list selects the file at a path, and all files that tags before it select are
proper. -/
def Layout.IsFirst [Platform] (l : Layout) (fs : FileSystem) (source : Text) (tags : List Text)
    (path : Text) : Prop :=
  ∃ before tag after, tags = before ++ tag :: after ∧ l.Selects fs source tag path ∧
    ∀ t ∈ before, ∀ p, l.Selects fs source t p → IsProper (fs.read p)

/-- A layer that could be merged has a proper file or none. -/
theorem Layout.isProper_of_mergeLayer [Platform] {below above : Entries} {path : Text}
    (h : (l.mergeLayer fs source below tag).result = .ok above)
    (hselects : l.Selects fs source tag path) : IsProper (fs.read path) := by
  obtain ⟨entries, hcontributes, -⟩ := mergeLayer_eq_ok_iff.1 h
  cases hcontributes with
  | noDirectory hdirectory =>
      rw [hselects.directory] at hdirectory
      cases hdirectory
  | noFile _ hfile =>
      rw [hselects.file] at hfile
      cases hfile
  | file hdirectory hfile hread =>
      cases hselects.path_eq ⟨hdirectory, hfile⟩
      exact isProper_of_parseFile hread

theorem Layout.isProper_of_mergeLayers [Platform] {tags : List Text} {below above : Entries}
    (h : (l.mergeLayers fs source below tags).result = .ok above) :
    ∀ tag ∈ tags, ∀ path, l.Selects fs source tag path → IsProper (fs.read path) := by
  induction tags generalizing below with
  | nil => nofun
  | cons first rest ih =>
      rw [mergeLayers, Traced.result_bind_eq_ok_iff] at h
      obtain ⟨next, hfirst, hrest⟩ := h
      intro tag htag path hselects
      rcases List.mem_cons.1 htag with rfl | htag
      · exact isProper_of_mergeLayer hfirst hselects
      · exact ih hrest tag htag path hselects

/-- A layer cannot be merged if the directory cannot be asked for, if looking for the file fails, or
if the file that is selected gives no entries, and for no other reason. -/
theorem Layout.mergeLayer_eq_error_iff [Platform] {below : Entries} {e : LoadError} :
    (l.mergeLayer fs source below tag).result = .error e ↔
      (fs.present (l.directory source)).mapError .file = .error e ∨
      (fs.present (l.directory source) = .ok true ∧
        (findFile fs (l.directory source) (stem source) tag).result = .error e) ∨
      ∃ path, l.Selects fs source tag path ∧ (parseFile path (fs.read path)).result = .error e := by
  unfold mergeLayer
  dsimp only
  rw [Traced.result_bind_eq_error_iff]
  simp only [Traced.result_ask, mapError_eq_ok_iff]
  apply or_congr_right
  constructor
  · rintro ⟨there, hdirectory, he⟩
    cases there with
    | false => cases he
    | true =>
        rcases Traced.result_bind_eq_error_iff.1 he with hfind | ⟨file, hfile, he⟩
        · exact .inl ⟨hdirectory, hfind⟩
        · cases file with
          | none => cases he
          | some path =>
              refine .inr ⟨path, ⟨hdirectory, hfile⟩, ?_⟩
              rcases Traced.result_bind_eq_error_iff.1 he with hread | ⟨entries, -, he⟩
              · rw [result_readFile] at hread
                exact hread
              · rcases Traced.result_bind_eq_error_iff.1 he with hlog | ⟨_, -, he⟩
                · cases hlog
                · cases he
  · rintro (⟨hdirectory, hfind⟩ | ⟨path, hselects, hparse⟩)
    · exact ⟨true, hdirectory, Traced.result_bind_eq_error_iff.2 (.inl hfind)⟩
    · refine ⟨true, hselects.directory, Traced.result_bind_eq_error_iff.2 (.inr ?_)⟩
      refine ⟨some path, hselects.file, Traced.result_bind_eq_error_iff.2 (.inl ?_)⟩
      rw [result_readFile]
      exact hparse

/-- Where the directory answers, looking for a file succeeds. -/
theorem Layout.Answers.exists_file (h : l.Answers fs source locale)
    (hdirectory : fs.present (l.directory source) = .ok true) (htag : tag ∈ l.tags locale) :
    ∃ file, (findFile fs (l.directory source) (stem source) tag).result = .ok file := by
  obtain ⟨there, hthere⟩ := h.file tag htag
  obtain ⟨names, hnames⟩ := h.names hdirectory
  unfold findFile
  dsimp only
  rw [Traced.result_bind_of_ok (mapError_eq_ok_iff.2 hthere)]
  cases there with
  | true => exact ⟨_, rfl⟩
  | false =>
      rw [if_neg Bool.false_ne_true]
      split
      · exact ⟨none, rfl⟩
      · rw [Traced.result_bind_of_ok (mapError_eq_ok_iff.2 hnames)]
        split
        · exact ⟨none, rfl⟩
        · exact ⟨_, rfl⟩

/-- A layer that could not be merged has a file that explains the error. -/
theorem Layout.Answers.explains [Platform] (h : l.Answers fs source locale)
    (htag : tag ∈ l.tags locale)
    {below : Entries} {e : LoadError} (he : (l.mergeLayer fs source below tag).result = .error e) :
    ∃ path, l.Selects fs source tag path ∧ Explains path (fs.read path) e := by
  rcases mergeLayer_eq_error_iff.1 he with hpresent | ⟨hdirectory, hfind⟩ | ⟨path, hselects, hparse⟩
  · obtain ⟨there, hthere⟩ := h.directory
    rw [hthere] at hpresent
    cases hpresent
  · obtain ⟨file, hfile⟩ := h.exists_file hdirectory htag
    rw [hfile] at hfind
    cases hfind
  · exact ⟨path, hselects, explains_of_parseFile (h.readable tag htag path hselects) hparse⟩

/-- A locale that cannot be resolved has a first file that is not proper, and that file explains
the error. -/
theorem Layout.Answers.exists_isFirst [Platform] (h : l.Answers fs source locale) {e : LoadError}
    (he : (l.resolve fs source locale).result = .error e) :
    ∃ path, l.IsFirst fs source (l.tags locale) path ∧ Explains path (fs.read path) e := by
  obtain ⟨before, tag, after, below, htags, hbefore, htag, -⟩ := exists_failing_layer he
  have hmem : tag ∈ l.tags locale := by
    rw [htags]
    exact List.mem_append_right before List.mem_cons_self
  obtain ⟨path, hselects, hexplains⟩ := h.explains hmem htag
  exact ⟨path, ⟨before, tag, after, htags, hselects, isProper_of_mergeLayers hbefore⟩, hexplains⟩

/-! ## Loads -/

namespace Store

variable {s : Store} {loader : Loader} {bundle : Bundle}

/-- A load gives a mapping or reports the first file that is not proper. The report names the file
and says that it holds no resources, unless the file is beyond the limits of the JSON reader; then
it is the error of the reader. A mapping that is resolved from files comes from proper files
alone. -/
theorem load_reports_first [Platform] (h : loader.layout.Answers fs bundle.source locale) :
    (∃ id, (s.load fs loader bundle locale).1.result = .ok id ∧
      (bundle.precomputed = none →
        (s.cache loader.cache).get? ⟨bundle.source, locale⟩ = none →
        ∀ tag ∈ loader.layout.tags locale, ∀ path,
          loader.layout.Selects fs bundle.source tag path → IsProper (fs.read path))) ∨
    ∃ path, loader.layout.IsFirst fs bundle.source (loader.layout.tags locale) path ∧
      ((∃ reason, HasFault (fs.read path) reason ∧
          (s.load fs loader bundle locale).1.result = .error (.malformed path reason)) ∨
        ExceedsLimits (fs.read path) ∧
          ((∃ n, (s.load fs loader bundle locale).1.result = .error (.numeralTooLong n)) ∨
            ∃ container,
              (s.load fs loader bundle locale).1.result = .error (.tooDeep container))) := by
  obtain ⟨source, precomputed⟩ := bundle
  cases precomputed with
  | some id => exact .inl ⟨id, rfl, nofun⟩
  | none =>
      cases hcached : (s.cache loader.cache).get? ⟨source, locale⟩ with
      | some id =>
          rw [load_of_cached hcached]
          exact .inl ⟨id, rfl, nofun⟩
      | none =>
          cases hresolve : (loader.layout.resolve fs source locale).result with
          | ok entries =>
              rw [load_of_resolved hcached hresolve]
              exact .inl ⟨_, rfl, fun _ _ => Layout.isProper_of_mergeLayers hresolve⟩
          | error e =>
              rw [load_of_unresolved hcached hresolve]
              obtain ⟨path, hfirst, hexplains⟩ := h.exists_isFirst hresolve
              refine .inr ⟨path, hfirst, ?_⟩
              cases hexplains with
              | malformed hfault => exact .inl ⟨_, hfault, rfl⟩
              | numeralTooLong hexceeds => exact .inr ⟨hexceeds, .inl ⟨_, rfl⟩⟩
              | tooDeep hexceeds => exact .inr ⟨hexceeds, .inr ⟨_, rfl⟩⟩

end Store

/-- A flat store answers if no file stands in the place of the directory and all that is selected
is a file. -/
theorem answers_flat {files : Flat}
    (hdirectory : files.files.get? (l.directory source) = none)
    (hfiles : ∀ tag ∈ l.tags locale, ∀ path, l.Selects files.fileSystem source tag path →
      (files.files.get? path).isSome) :
    l.Answers files.fileSystem source locale := by
  refine ⟨⟨_, rfl⟩, ?_, fun _ _ => ⟨_, rfl⟩, ?_⟩
  · intro hpresent
    have hthere : files.isDirectory (l.directory source) = true := by
      have := Except.ok.inj hpresent
      simpa [Flat.present, hdirectory] using this
    refine ⟨files.names (l.directory source), ?_⟩
    simp [Flat.fileSystem, hdirectory, hthere]
  · intro tag htag path hselects cause
    obtain ⟨bytes, hbytes⟩ := Option.isSome_iff_exists.1 (hfiles tag htag path hselects)
    simp only [Flat.fileSystem, hbytes, decodeText]
    intro h
    cases hdecode : Text.Utf8.decode bytes with
    | ok text =>
        rw [hdecode] at h
        cases h
    | error failure =>
        rw [hdecode] at h
        cases h

namespace Store

/-- The menu with a German file that gives the title a number. -/
def numberedMenu : Flat :=
  menu.write "/app/resources/menu-de.json".toList (asciiBytes "\x7b\"title\": 5\x7d")

/-- A number in the German file is reported after the English file has been merged. -/
theorem load_reports_first_menu :
    let path := "/app/resources/menu-de.json".toList
    englishLoader.layout.Answers numberedMenu.fileSystem menuSource "de".toList ∧
      englishLoader.layout.IsFirst numberedMenu.fileSystem menuSource
        ["en".toList, "de".toList] path ∧
      HasFault (numberedMenu.fileSystem.read path) .notTexts ∧
      (empty.load numberedMenu.fileSystem englishLoader ⟨menuSource, none⟩
        "de".toList).1.result = .error (.malformed path .notTexts) := by
  intro path
  have htags : englishLoader.layout.tags "de".toList = ["en".toList, "de".toList] := by cbv
  have henglish : englishLoader.layout.Selects numberedMenu.fileSystem menuSource "en".toList
      "/app/resources/menu-en.json".toList := ⟨by cbv, by cbv⟩
  have hgerman : englishLoader.layout.Selects numberedMenu.fileSystem menuSource "de".toList
      path := ⟨by cbv, by cbv⟩
  have hresult : (empty.load numberedMenu.fileSystem englishLoader ⟨menuSource, none⟩
      "de".toList).1.result = .error (.malformed path .notTexts) := by cbv
  have hanswers : englishLoader.layout.Answers numberedMenu.fileSystem menuSource
      "de".toList := by
    refine answers_flat (by cbv) ?_
    rw [htags]
    intro tag htag other hselects
    rcases List.mem_cons.1 htag with htag | htag
    · rw [htag] at hselects
      rw [← henglish.path_eq hselects]
      rfl
    · rw [List.mem_singleton.1 htag] at hselects
      rw [← hgerman.path_eq hselects]
      rfl
  have hreports := @load_reports_first numberedMenu.fileSystem "de".toList empty englishLoader
    ⟨menuSource, none⟩ _ hanswers
  rw [htags, hresult] at hreports
  rcases hreports with
    ⟨id, hok, -⟩ | ⟨other, hfirst, ⟨reason, hfault, herror⟩ | ⟨-, ⟨n, herror⟩ | ⟨_, herror⟩⟩⟩
  · cases hok
  · obtain ⟨hpath, hreason⟩ := LoadError.malformed.inj (Except.error.inj herror)
    rw [← hpath] at hfirst hfault
    rw [← hreason] at hfault
    exact ⟨hanswers, hfirst, hfault, hresult⟩
  · cases herror
  · cases herror

/-- A file as a store has it, for a text of ASCII characters. -/
theorem decode_ascii {s : Text} (h : ∀ c ∈ s, c.toNat < 128) (position : Nat) :
    Text.Utf8.decodeFrom position (s.map fun c => c.toNat.toUInt8) = .ok s := by
  induction s generalizing position with
  | nil => rfl
  | cons c rest ih =>
      obtain ⟨hc, hrest⟩ := List.forall_mem_cons.1 h
      have hbyte : c.toNat.toUInt8.toNat = c.toNat := by
        simp
        omega
      have hwidth : Text.Utf8.width? c.toNat.toUInt8 = some 1 := by
        rw [Text.Utf8.width?, if_pos]
        rw [UInt8.lt_iff_toNat_lt, hbyte]
        exact hc
      rw [List.map_cons, Text.Utf8.decodeFrom.eq_def]
      simp only [hwidth, ih hrest, hbyte]
      simp [Except.map]

/-- An English menu of some bytes. -/
def englishMenu (bytes : List UInt8) : Flat :=
  ⟨[("/app/resources/menu-en.json".toList, bytes)], []⟩

theorem selects_englishMenu (bytes : List UInt8) :
    englishLoader.layout.Selects (englishMenu bytes).fileSystem menuSource "en".toList
      "/app/resources/menu-en.json".toList :=
  ⟨by cbv, by cbv⟩

theorem toNat_lt_of_mem_countText {n : Nat} {c : Char} (h : c ∈ Json.countText n) :
    c.toNat < 128 := by
  have hbegins : ∀ c ∈ ['\x7b', '"', 'c', 'o', 'u', 'n', 't', '"', ':', ' '], c.toNat < 128 := by
    simp
  rcases List.mem_append.1 h with hbegin | hones
  · exact hbegins c hbegin
  · rcases List.mem_append.1 hones with hone | hend
    · rw [List.eq_of_mem_replicate hone]
      decide
    · rw [List.mem_singleton.1 hend]
      decide

/-- The English menu with an object that holds an integer of some number of digits. -/
def countedMenu (n : Nat) : Flat :=
  englishMenu ((Json.countText n).map fun c => c.toNat.toUInt8)

/-- An integer with more digits than the reader converts ends a load with the error of the reader,
although the file is JSON for an object with a value that is neither a string nor null. -/
theorem load_countedMenu [Platform] {n : Nat} (h : Numeral.maxDigits < n) :
    let path := "/app/resources/menu-en.json".toList
    englishLoader.layout.Answers (countedMenu n).fileSystem menuSource "en".toList ∧
      englishLoader.layout.IsFirst (countedMenu n).fileSystem menuSource
        (englishLoader.layout.tags "en".toList) path ∧
      HasFault ((countedMenu n).fileSystem.read path) .notTexts ∧
      (empty.load (countedMenu n).fileSystem englishLoader ⟨menuSource, none⟩
        "en".toList).1.result = .error (.numeralTooLong n) := by
  intro path
  have htags : englishLoader.layout.tags "en".toList = ["en".toList] := by cbv
  have hselects : englishLoader.layout.Selects (countedMenu n).fileSystem menuSource
      "en".toList path := selects_englishMenu _
  have hread : (countedMenu n).fileSystem.read path = .ok (Json.countText n) := by
    change decodeText _ = _
    rw [decodeText, Text.Utf8.decode, decode_ascii fun _ => toNat_lt_of_mem_countText]
    rfl
  have hanswers : englishLoader.layout.Answers (countedMenu n).fileSystem menuSource
      "en".toList := by
    refine answers_flat rfl ?_
    rw [htags]
    intro tag htag other hother
    rw [List.mem_singleton.1 htag] at hother
    rw [← hselects.path_eq hother]
    rfl
  have hparse : (parseFile path ((countedMenu n).fileSystem.read path)).result =
      .error (.numeralTooLong n) := by
    rw [hread]
    simp only [parseFile, Json.read_countText h]
    rfl
  have hresolve : (englishLoader.layout.resolve (countedMenu n).fileSystem menuSource
      "en".toList).result = .error (.numeralTooLong n) := by
    rw [Layout.resolve, htags, Layout.mergeLayers, Traced.result_bind_eq_error_iff]
    exact .inl (Layout.mergeLayer_eq_error_iff.2 (.inr (.inr ⟨path, hselects, hparse⟩)))
  refine ⟨hanswers, ?_, ?_, ?_⟩
  · rw [htags]
    refine ⟨[], _, [], rfl, hselects, ?_⟩
    intro tag htag
    cases htag
  · rw [hread]
    refine .notTexts (Json.isJson_countText h) List.mem_cons_self ?_
    rintro (_ | text) hwritten
    · cases hwritten
    · cases hwritten
  · rw [load_of_unresolved rfl hresolve]

/-- An integer of more digits than the reader takes is no malformation to a load, though everything
that it asks has its answer. -/
theorem load_long_integer :
    englishLoader.layout.Answers (countedMenu 4301).fileSystem menuSource "en".toList ∧
      ¬ ((∃ id, (empty.load (countedMenu 4301).fileSystem englishLoader ⟨menuSource, none⟩
            "en".toList).1.result = .ok id) ∨
          ∃ path reason, (empty.load (countedMenu 4301).fileSystem englishLoader
            ⟨menuSource, none⟩ "en".toList).1.result = .error (.malformed path reason)) := by
  obtain ⟨hanswers, -, -, hresult⟩ := load_countedMenu (n := 4301) (by decide)
  refine ⟨hanswers, ?_⟩
  rw [hresult]
  rintro (⟨id, hok⟩ | ⟨path, reason, herror⟩)
  · cases hok
  · cases herror

end Store

end Phrasebook.Resources
