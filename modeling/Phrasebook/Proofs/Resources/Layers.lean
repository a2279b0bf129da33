import Mathlib.Data.List.Forall2
import Phrasebook.Proofs.Dict
import Phrasebook.Proofs.Json.Grammar
import Phrasebook.Proofs.Traced
import Phrasebook.Resources.Store

/-!
# What the layers of a locale come to

Every tag of a locale contributes entries: those of the file it selects, or none where the
directory or the file is missing. Resolving succeeds exactly if every tag contributes, and then
the contributions are merged in order. So each key stands where it first came, with the value
of the last file that holds it, and no layer takes a key away.

`Contributes` speaks of the entries that were read from a file and `LayerMembers` of the members
as they are written in it, where a name may be repeated.
-/

namespace Phrasebook.Resources

/-- The value that an entry was written as. -/
def writtenAs : Option Text → Json
  | none => .null
  | some text => .string text

theorem entries?_eq_some {members : List (Text × Json)} {entries : Entries}
    (h : entries? members = some entries) :
    members = entries.map fun (key, value) => (key, writtenAs value) := by
  induction members generalizing entries with
  | nil =>
      cases h
      rfl
  | cons member rest ih =>
      obtain ⟨key, value⟩ := member
      unfold entries? at h
      split at h
      · rename_i rest' hrest
        cases h
        rw [List.map_cons, ← ih hrest]
        rfl
      · rename_i rest' hrest
        cases h
        rw [List.map_cons, ← ih hrest]
        rfl
      · cases h

/-- Entries that written members come to: every name at its first place and with its last
value. -/
structure AreEntriesOf (members : List (Text × Json)) (entries : Entries) : Prop where
  keys : entries.keys = (Dict.keys members).eraseDups
  values : ∀ key, (entries.get? key).map writtenAs = Dict.get? members.reverse key

theorem get?_map_writtenAs (entries : Entries) (key : Text) :
    Dict.get? (entries.map fun (key, value) => (key, writtenAs value)) key =
      (entries.get? key).map writtenAs := by
  induction entries with
  | nil => rfl
  | cons entry rest ih =>
      obtain ⟨k, v⟩ := entry
      by_cases h : k = key
      · simp [Dict.get?, h]
      · simpa [Dict.get?, h] using ih

namespace AreEntriesOf

theorem nil : AreEntriesOf [] [] := ⟨rfl, fun _ => rfl⟩

theorem of_entries? {members : List (Text × Json)} {entries : Entries}
    (h : entries? (Dict.ofPairs members) = some entries) : AreEntriesOf members entries := by
  have hmap := entries?_eq_some h
  constructor
  · rw [← Dict.keys_ofPairs, hmap]
    simp [Dict.keys]
  · intro key
    rw [← Dict.get?_ofPairs, hmap, get?_map_writtenAs]

variable {members other : List (Text × Json)} {entries delta : Entries}

theorem nodup (h : AreEntriesOf members entries) : entries.keys.Nodup :=
  h.keys ▸ Dict.nodup_eraseDups _

/-- Merging entries puts the members that they come from behind one another. -/
theorem merge (h : AreEntriesOf members entries) (hdelta : AreEntriesOf other delta) :
    AreEntriesOf (members ++ other) (entries.merge delta) := by
  constructor
  · rw [Dict.keys_merge h.nodup, h.keys, hdelta.keys, Dict.eraseDups_append_eraseDups,
      Dict.keys_append]
  · intro key
    rw [Dict.get?_merge, Dict.get?_reverse hdelta.nodup, List.reverse_append, Dict.get?_append,
      ← h.values, ← hdelta.values]
    cases delta.get? key <;> rfl

/-- Entries merged in order come from the members of all of them in order. -/
theorem foldl_merge {rows : List (List (Text × Json))} {layers : List Entries}
    (hlayers : List.Forall₂ AreEntriesOf rows layers) (h : AreEntriesOf members entries) :
    AreEntriesOf (members ++ rows.flatten) (layers.foldl Dict.merge entries) := by
  induction hlayers generalizing members entries with
  | nil => simpa using h
  | cons hfirst _ ih => simpa using ih (h.merge hfirst)

end AreEntriesOf

/-- The last row that holds a key decides its value. -/
theorem get?_reverse_flatten (rows : List (List (Text × Json))) (key : Text) :
    Dict.get? rows.flatten.reverse key =
      rows.reverse.findSome? fun row => Dict.get? row.reverse key := by
  induction rows with
  | nil => rfl
  | cons row rest ih =>
      rw [List.flatten_cons, List.reverse_append, Dict.get?_append, ih, List.reverse_cons,
        List.findSome?_append, List.findSome?_singleton]

theorem keys_flatten (rows : List (List (Text × Json))) :
    Dict.keys rows.flatten = rows.flatMap Dict.keys := by
  rw [Dict.keys, List.map_flatten, List.flatMap]
  rfl

/-! ## One layer -/

variable [Platform]

/-- The entries that a tag contributes. -/
inductive Layout.Contributes (l : Layout) (fs : FileSystem) (source tag : Text) : Entries → Prop
  | noDirectory (hdirectory : fs.present (l.directory source) = .ok false) :
      Contributes l fs source tag []
  | noFile (hdirectory : fs.present (l.directory source) = .ok true)
      (hfile : (findFile fs (l.directory source) (stem source) tag).result = .ok none) :
      Contributes l fs source tag []
  | file {path : Text} {entries : Entries}
      (hdirectory : fs.present (l.directory source) = .ok true)
      (hfile : (findFile fs (l.directory source) (stem source) tag).result = .ok (some path))
      (hread : (parseFile path (fs.read path)).result = .ok entries) :
      Contributes l fs source tag entries

/-- The members of the file that a tag selects, as they are written in it. -/
inductive Layout.LayerMembers (l : Layout) (fs : FileSystem) (source tag : Text) :
    List (Text × Json) → Prop
  | noDirectory (hdirectory : fs.present (l.directory source) = .ok false) :
      LayerMembers l fs source tag []
  | noFile (hdirectory : fs.present (l.directory source) = .ok true)
      (hfile : (findFile fs (l.directory source) (stem source) tag).result = .ok none) :
      LayerMembers l fs source tag []
  | file {path text : Text} {members : List (Text × Json)}
      (hdirectory : fs.present (l.directory source) = .ok true)
      (hfile : (findFile fs (l.directory source) (stem source) tag).result = .ok (some path))
      (hread : fs.read path = .ok text)
      (hmembers : Json.SpellsObject ((Json.tokens text).map Prod.snd) members) :
      LayerMembers l fs source tag members

theorem parseFile_eq_ok {path : Text} {content : Except ReadError Text} {entries : Entries}
    (h : (parseFile path content).result = .ok entries) :
    ∃ text members, content = .ok text ∧ Json.read text = .ok (.object members) ∧
      entries? members = some entries := by
  unfold parseFile at h
  dsimp only at h
  split at h
  · cases h
  · cases h
  · rename_i text
    split at h
    · cases h
    · cases h
    · cases h
    · rename_i members hread
      split at h
      · rename_i entries' hentries
        cases h
        exact ⟨text, members, rfl, hread, hentries⟩
      · cases h
    · cases h

variable {l : Layout} {fs : FileSystem} {source tag : Text}

theorem Layout.Contributes.exists_members {entries : Entries}
    (h : l.Contributes fs source tag entries) :
    ∃ members, l.LayerMembers fs source tag members ∧ AreEntriesOf members entries := by
  cases h with
  | noDirectory hdirectory => exact ⟨[], .noDirectory hdirectory, .nil⟩
  | noFile hdirectory hfile => exact ⟨[], .noFile hdirectory hfile, .nil⟩
  | file hdirectory hfile hread =>
      obtain ⟨text, members, htext, hobject, hentries⟩ := parseFile_eq_ok hread
      obtain ⟨raw, hraw, rfl⟩ := Json.spellsObject_of_read hobject
      exact ⟨raw, .file hdirectory hfile htext hraw, .of_entries? hentries⟩

/-- Merging a layer succeeds exactly if its tag contributes. -/
theorem Layout.mergeLayer_eq_ok_iff {below above : Entries} :
    (l.mergeLayer fs source below tag).result = .ok above ↔
      ∃ entries, l.Contributes fs source tag entries ∧ above = below.merge entries := by
  unfold mergeLayer
  dsimp only
  rw [Traced.result_bind_eq_ok_iff]
  simp only [Traced.result_ask, mapError_eq_ok_iff]
  constructor
  · rintro ⟨there, hdirectory, habove⟩
    cases there with
    | false =>
        cases habove
        exact ⟨[], .noDirectory hdirectory, rfl⟩
    | true =>
        obtain ⟨file, hfile, habove⟩ := Traced.result_bind_eq_ok_iff.1 habove
        cases file with
        | none =>
            cases habove
            exact ⟨[], .noFile hdirectory hfile, rfl⟩
        | some path =>
            obtain ⟨entries, hread, habove⟩ := Traced.result_bind_eq_ok_iff.1 habove
            cases habove
            exact ⟨entries, .file hdirectory hfile hread, rfl⟩
  · rintro ⟨entries, hentries, rfl⟩
    cases hentries with
    | noDirectory hdirectory => exact ⟨false, hdirectory, rfl⟩
    | noFile hdirectory hfile =>
        exact ⟨true, hdirectory, Traced.result_bind_eq_ok_iff.2 ⟨none, hfile, rfl⟩⟩
    | file hdirectory hfile hread =>
        refine ⟨true, hdirectory, Traced.result_bind_eq_ok_iff.2 ⟨_, hfile, ?_⟩⟩
        exact Traced.result_bind_eq_ok_iff.2 ⟨entries, hread, rfl⟩

/-! ## All layers -/

omit [Platform] in
/-- The tags of a locale are the base language, the language of the locale and the locale. -/
theorem Layout.mem_tags_iff {locale tag : Text} :
    tag ∈ l.tags locale ↔ tag = l.baseLang ∨ tag = language locale ∨ tag = locale := by
  rw [tags, List.mem_append, List.mem_append, List.mem_singleton, List.mem_ite_nil_right,
    List.mem_ite_nil_right, List.mem_singleton, List.mem_singleton]
  grind

theorem Layout.mergeLayers_eq_ok_iff {tags : List Text} {below above : Entries} :
    (l.mergeLayers fs source below tags).result = .ok above ↔
      ∃ layers, List.Forall₂ (l.Contributes fs source) tags layers ∧
        above = layers.foldl Dict.merge below := by
  induction tags generalizing below with
  | nil => simp [mergeLayers, eq_comm]
  | cons tag rest ih =>
      rw [mergeLayers, Traced.result_bind_eq_ok_iff]
      constructor
      · rintro ⟨next, hnext, hrest⟩
        obtain ⟨entries, hentries, rfl⟩ := mergeLayer_eq_ok_iff.1 hnext
        obtain ⟨layers, hlayers, rfl⟩ := ih.1 hrest
        exact ⟨entries :: layers, .cons hentries hlayers, rfl⟩
      · rintro ⟨layers, hlayers, rfl⟩
        cases hlayers with
        | cons hentries hlayers =>
            exact ⟨_, mergeLayer_eq_ok_iff.2 ⟨_, hentries, rfl⟩, ih.2 ⟨_, hlayers, rfl⟩⟩

/-- Resolving a locale succeeds exactly if all its tags contribute. -/
theorem Layout.resolve_eq_ok_iff {locale : Text} {entries : Entries} :
    (l.resolve fs source locale).result = .ok entries ↔
      ∃ layers, List.Forall₂ (l.Contributes fs source) (l.tags locale) layers ∧
        entries = layers.foldl Dict.merge [] :=
  mergeLayers_eq_ok_iff

theorem exists_rows_of_layers {tags : List Text} {layers : List Entries}
    (h : List.Forall₂ (l.Contributes fs source) tags layers) :
    ∃ rows, List.Forall₂ (l.LayerMembers fs source) tags rows ∧
      List.Forall₂ AreEntriesOf rows layers := by
  induction h with
  | nil => exact ⟨[], .nil, .nil⟩
  | cons hfirst _ ih =>
      obtain ⟨rows, hrows, hentries⟩ := ih
      obtain ⟨row, hrow, hentry⟩ := hfirst.exists_members
      exact ⟨row :: rows, .cons hrow hrows, .cons hentry hentries⟩

/-- What a locale is resolved to comes from the members of the files of its tags, in order. -/
theorem Layout.exists_rows_of_resolve {locale : Text} {entries : Entries}
    (h : (l.resolve fs source locale).result = .ok entries) :
    ∃ rows, List.Forall₂ (l.LayerMembers fs source) (l.tags locale) rows ∧
      AreEntriesOf rows.flatten entries := by
  obtain ⟨layers, hlayers, rfl⟩ := resolve_eq_ok_iff.1 h
  obtain ⟨rows, hrows, hentries⟩ := exists_rows_of_layers hlayers
  exact ⟨rows, hrows, .foldl_merge hentries .nil⟩

end Phrasebook.Resources
