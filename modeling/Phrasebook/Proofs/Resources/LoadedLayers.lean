import Mathlib
import Phrasebook.Files.Flat
import Phrasebook.Proofs.Resources.Loading

/-!
# The layers of a loaded mapping

A load that misses its cache gives the keys of all files that the tags of its locale select, in the
order in which they first come, each with the value that the last of the files holding it gives it.
The files of a small menu serve as the example here and wherever texts are looked up.
-/

namespace Phrasebook.Resources

namespace Store

variable {s : Store} {fs : FileSystem} {loader : Loader} {source locale : Text}

/-- A load that misses the cache and succeeds gives the keys of all files of its tags in the order
in which they first come, each with the value that the last of the files holding it gives it. -/
theorem load_layers [Platform] {id : MappingId}
    (hmiss : (s.cache loader.cache).get? ⟨source, locale⟩ = none)
    (hload : (s.load fs loader ⟨source, none⟩ locale).1.result = .ok id) :
    ∃ files : List (List (Text × Json)),
      List.Forall₂ (loader.layout.LayerMembers fs source) (loader.layout.tags locale) files ∧
      let entries := (s.load fs loader ⟨source, none⟩ locale).2.entries id
      (∀ key, key ∈ entries.keys ↔ ∃ file ∈ files, key ∈ Dict.keys file) ∧
      entries.keys = (files.flatMap Dict.keys).eraseDups ∧
      ∀ key, (entries.get? key).map writtenAs =
        files.reverse.findSome? fun file => Dict.get? file.reverse key := by
  obtain ⟨rfl, entries, hresolve, hstore⟩ := (load_eq_ok_iff_of_missed hmiss).1 hload
  obtain ⟨files, hfiles, hentries⟩ := Layout.exists_rows_of_resolve hresolve
  rw [hstore, entries_resolvedTo_nextId]
  have hkeys : entries.keys = (files.flatMap Dict.keys).eraseDups := by
    rw [hentries.keys, keys_flatten]
  refine ⟨files, hfiles, ?_, hkeys, ?_⟩
  · intro key
    rw [hkeys, List.mem_eraseDups, List.mem_flatMap]
  · intro key
    rw [hentries.values, get?_reverse_flatten]

end Store

/-- The bytes of an ASCII text. -/
def asciiBytes (text : String) : List UInt8 :=
  text.toList.map fun c => c.toNat.toUInt8

/-- The texts of a menu in English and in German, where the German file has no text for going back
and gives the title twice. -/
def menu : Flat where
  files := [
    ("/app/resources/menu-en.json".toList, asciiBytes
      "\x7b\"title\": \"Home\", \"back\": \"Back\"\x7d"),
    ("/app/resources/menu-de.json".toList, asciiBytes
      "\x7b\"help\": \"Hilfe\", \"title\": \"\", \"back\": null, \"title\": \"Start\"\x7d")]
  directories := []

/-- The source that the menu belongs to. -/
def menuSource : Text := "/app/menu.py".toList

/-- A loader of English resources. -/
def englishLoader : Loader := ⟨⟨"en".toList, "resources".toList⟩, 0⟩

namespace Store

theorem load_layers_menu :
    (empty.cache englishLoader.cache).get? ⟨menuSource, "de".toList⟩ = none ∧
    (empty.load menu.fileSystem englishLoader ⟨menuSource, none⟩ "de".toList).1.result = .ok 0 ∧
    ∃ files : List (List (Text × Json)),
      List.Forall₂ (englishLoader.layout.LayerMembers menu.fileSystem menuSource)
        (englishLoader.layout.tags "de".toList) files ∧
      let entries :=
        (empty.load menu.fileSystem englishLoader ⟨menuSource, none⟩ "de".toList).2.entries 0
      (∀ key, key ∈ entries.keys ↔ ∃ file ∈ files, key ∈ Dict.keys file) ∧
      entries.keys = (files.flatMap Dict.keys).eraseDups ∧
      ∀ key, (entries.get? key).map writtenAs =
        files.reverse.findSome? fun file => Dict.get? file.reverse key := by
  have hload : (empty.load menu.fileSystem englishLoader ⟨menuSource, none⟩
      "de".toList).1.result = .ok 0 := by cbv
  exact ⟨rfl, hload, load_layers rfl hload⟩

/-- The title keeps its place and takes its last German text, and going back has none. -/
example : (empty.load menu.fileSystem englishLoader ⟨menuSource, none⟩ "de".toList).2.entries 0 =
    [("title".toList, some "Start".toList), ("back".toList, none),
      ("help".toList, some "Hilfe".toList)] := by
  cbv

end Store

end Phrasebook.Resources
