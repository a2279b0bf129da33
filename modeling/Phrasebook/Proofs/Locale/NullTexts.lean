import Phrasebook.Proofs.Locale.Lookups
import Phrasebook.Proofs.Resources.LoadedLayers

/-!
# Keys that a file gives no text

A resource file may give a key the value null, and a lookup treats a null as a missing key. Layers
are merged before that: a null is merged like a text, so it takes the place of the text that an
earlier file gives the key. A lookup therefore finds the text of the nearest file that has one
exactly if no such text is hidden.
-/

namespace Phrasebook.Locale

open Resources

/-- The text that a file gives a key, if it gives one. Of a repeated name the last value counts. -/
def textIn (file : List (Text × Json)) (key : Text) : Option Text :=
  match Dict.get? file.reverse key with
  | some (.string text) => some text
  | _ => none

/-- The text that the last file with a text for a key gives it. -/
def nearestText (files : List (List (Text × Json))) (key : Text) : Option Text :=
  files.reverse.findSome? (textIn · key)

/-- The last file that holds a key gives it a null, although another one gives it a text. -/
def HidesText (files : List (List (Text × Json))) (key : Text) : Prop :=
  files.reverse.findSome? (fun file => Dict.get? file.reverse key) = some .null ∧
    ∃ file ∈ files, ∃ text, textIn file key = some text

/-- The answer to a lookup of a key that has some text, or none. -/
def textAnswer (key : Text) : Option Text → Except Error Text
  | some text => .ok text
  | none => .error (.notFound (.text key))

theorem textAnswer_injective (key : Text) : Function.Injective (textAnswer key) := by
  rintro (_ | text) (_ | other) h
  · rfl
  · cases h
  · cases h
  · cases h
    rfl

/-! ## Files as lists of members -/

section Files

variable {files : List (List (Text × Json))} {key : Text}

theorem textIn_of_unheld {file : List (Text × Json)} (h : Dict.get? file.reverse key = none) :
    textIn file key = none := by
  rw [textIn, h]

theorem nearestText_eq_none_iff : nearestText files key = none ↔
    ¬ ∃ file ∈ files, ∃ text, textIn file key = some text := by
  rw [nearestText, List.findSome?_eq_none_iff]
  constructor
  · rintro h ⟨file, hfile, text, htext⟩
    rw [h file (List.mem_reverse.2 hfile)] at htext
    cases htext
  · intro h file hfile
    cases htext : textIn file key with
    | none => rfl
    | some text => exact absurd ⟨file, List.mem_reverse.1 hfile, text, htext⟩ h

/-- Where no file holds a key, none has a text for it. -/
theorem nearestText_of_unheld
    (h : files.reverse.findSome? (fun file => Dict.get? file.reverse key) = none) :
    nearestText files key = none := by
  rw [List.findSome?_eq_none_iff] at h
  rw [nearestText, List.findSome?_eq_none_iff]
  intro file hfile
  exact textIn_of_unheld (h file hfile)

/-- A text in the last file that holds a key is the nearest one. -/
theorem nearestText_of_held {text : Text}
    (h : files.reverse.findSome? (fun file => Dict.get? file.reverse key) =
      some (.string text)) : nearestText files key = some text := by
  obtain ⟨above, file, below, hfiles, hfile, habove⟩ := List.findSome?_eq_some_iff.1 h
  rw [nearestText, hfiles, List.findSome?_eq_some_iff]
  refine ⟨above, file, below, rfl, ?_, ?_⟩
  · rw [textIn, hfile]
  · intro other hother
    exact textIn_of_unheld (habove other hother)

end Files

/-- Entries have no text for a key that is given a null last. -/
theorem textOf_of_hidden {files : List (List (Text × Json))} {entries : Entries} {key : Text}
    (h : AreEntriesOf files.flatten entries) (hhidden : HidesText files key) :
    Localizer.textOf entries (.text key) = .error (.notFound (.text key)) := by
  have hlast := h.values key
  rw [get?_reverse_flatten, hhidden.1] at hlast
  obtain ⟨value, hvalue, hnull⟩ := Option.map_eq_some_iff.1 hlast
  cases value with
  | some text => cases hnull
  | none => simp [Localizer.textOf, hvalue]

/-- Entries have the nearest text of a key exactly if no text of it is hidden. -/
theorem textOf_eq_nearest_iff {files : List (List (Text × Json))} {entries : Entries}
    (h : AreEntriesOf files.flatten entries) (key : Text) :
    Localizer.textOf entries (.text key) = textAnswer key (nearestText files key) ↔
      ¬ HidesText files key := by
  have hlast := h.values key
  rw [get?_reverse_flatten] at hlast
  rw [HidesText, ← hlast]
  cases hvalue : entries.get? key with
  | none =>
      rw [hvalue] at hlast
      have hnearest : nearestText files key = none := nearestText_of_unheld hlast.symm
      simp [Localizer.textOf, hvalue, hnearest, textAnswer]
  | some value =>
      rw [hvalue] at hlast
      cases value with
      | some text =>
          have hnearest : nearestText files key = some text := nearestText_of_held hlast.symm
          simp [Localizer.textOf, hvalue, hnearest, textAnswer, writtenAs]
      | none =>
          have htext : Localizer.textOf entries (.text key) = textAnswer key none := by
            simp [Localizer.textOf, hvalue, textAnswer]
          rw [htext, (textAnswer_injective key).eq_iff, eq_comm, nearestText_eq_none_iff]
          simp [writtenAs]

/-! ## Lookups -/

variable {l : Localizer} {fs : FileSystem} {context : Option RequestContext} {s : Store}
  {source tag : Text} {locale : Value} {id : MappingId}

/-- Where a load succeeds, a lookup gives the nearest text of a key exactly if no text of it is
hidden, and a hidden text is not found. -/
theorem Localizer.lookup_eq_nearest_iff [Platform] (hchosen : l.chosen context locale = .text tag)
    (hcurrent : s.IsCurrent fs l.loader source tag)
    (hload : (s.load fs l.loader ⟨source, none⟩ tag).1.result = .ok id) :
    ∃ files, List.Forall₂ (l.loader.layout.LayerMembers fs source)
        (l.loader.layout.tags tag) files ∧
      ∀ key,
        ((l.lookup fs context ⟨source, none⟩ (.text key) locale s).1.result =
            textAnswer key (nearestText files key) ↔ ¬ HidesText files key) ∧
        (HidesText files key →
          (l.lookup fs context ⟨source, none⟩ (.text key) locale s).1.result =
            .error (.notFound (.text key))) := by
  have hresolve := s.resolve_of_load hcurrent hload
  obtain ⟨files, hfiles, hentries⟩ := Layout.exists_rows_of_resolve hresolve
  refine ⟨files, hfiles, ?_⟩
  intro key
  rw [result_lookup_of_load hchosen hload]
  constructor
  · exact textOf_eq_nearest_iff hentries key
  · exact textOf_of_hidden hentries

/-- A localizer of the menu. -/
def menuLocalizer : Localizer := ⟨englishLoader, .text "en".toList, []⟩

theorem Localizer.lookup_eq_nearest_iff_menu :
    menuLocalizer.chosen none (.text "de".toList) = .text "de".toList ∧
    Store.empty.IsCurrent menu.fileSystem menuLocalizer.loader menuSource "de".toList ∧
    (Store.empty.load menu.fileSystem menuLocalizer.loader ⟨menuSource, none⟩
      "de".toList).1.result = .ok 0 ∧
    ∃ files, List.Forall₂ (menuLocalizer.loader.layout.LayerMembers menu.fileSystem menuSource)
        (menuLocalizer.loader.layout.tags "de".toList) files ∧
      ∀ key,
        ((menuLocalizer.lookup menu.fileSystem none ⟨menuSource, none⟩ (.text key)
            (.text "de".toList) .empty).1.result =
            textAnswer key (nearestText files key) ↔ ¬ HidesText files key) ∧
        (HidesText files key →
          (menuLocalizer.lookup menu.fileSystem none ⟨menuSource, none⟩ (.text key)
            (.text "de".toList) .empty).1.result = .error (.notFound (.text key))) := by
  have hchosen : menuLocalizer.chosen none (.text "de".toList) = .text "de".toList := rfl
  have hcurrent : Store.empty.IsCurrent menu.fileSystem menuLocalizer.loader menuSource
      "de".toList := by
    rintro id ⟨⟩
  have hload : (Store.empty.load menu.fileSystem menuLocalizer.loader ⟨menuSource, none⟩
      "de".toList).1.result = .ok 0 := by cbv
  exact ⟨hchosen, hcurrent, hload, Localizer.lookup_eq_nearest_iff hchosen hcurrent hload⟩

/-- The German file of the menu has a null for going back, and hides the English text of it. -/
theorem Localizer.lookup_null_over_text :
    (readFile menu.fileSystem "/app/resources/menu-en.json".toList).result =
      .ok [("title".toList, some "Home".toList), ("back".toList, some "Back".toList)] ∧
    (readFile menu.fileSystem "/app/resources/menu-de.json".toList).result =
      .ok [("help".toList, some "Hilfe".toList), ("title".toList, some "Start".toList),
        ("back".toList, none)] ∧
    (menuLocalizer.lookup menu.fileSystem none ⟨menuSource, none⟩ (.text "back".toList)
      (.text "de".toList) .empty).1.result = .error (.notFound (.text "back".toList)) := by
  refine ⟨?_, ?_, ?_⟩
  · cbv
  · cbv
  · cbv

end Phrasebook.Locale
