import Phrasebook.Proofs.Locale.NullTexts
import Phrasebook.Proofs.Locale.Requests
import Phrasebook.Proofs.Resources.Confinement
import Phrasebook.Proofs.Text.UpperCase

/-!
# Files that a locale can reach

A locale comes from a caller or, as the first entry of a header, from a client. Putting the end of
an entry into upper case neither makes nor removes a slash, so a client can send any slash that a
caller can. The files that are read for a locale lie directly in the directory of the resources,
unless the tag that selects them has a slash; so a locale without one is confined, and one with a
slash is not.
-/

namespace Phrasebook.Locale

open Resources

/-- The tag of a client has a slash exactly if the first entry of its header has one. -/
theorem Localizer.slash_mem_clientTag_iff (accept : Option Text) :
    '/' ∈ clientTag accept ↔ '/' ∈ Text.before ',' (accept.getD []) := by
  generalize haccept : accept.getD [] = header
  rw [clientTag, haccept]
  cases header with
  | nil => exact iff_of_false (by decide) List.not_mem_nil
  | cons c rest =>
      dsimp only [List.isEmpty_cons]
      rw [if_neg Bool.false_ne_true, List.mem_append, Text.mem_upper_iff (by decide),
        ← List.mem_append, List.take_append_drop]

variable {fs : FileSystem} {s : Store} {r : Request} {path : Text}

namespace Request

/-- The tags that select files for a request. A locale that is no text has that of the base language
alone. -/
def tags (r : Request) : List Text :=
  match r.locale with
  | .text locale => r.loader.layout.tags locale
  | _ => [r.loader.layout.baseLang]

/-- Where a file lies that a request reads: one of its tags selects the file, and the file is
directly in the directory of the resources exactly if that tag has no slash. If neither the base
language nor the locale has a slash, the file is there. -/
structure Places (r : Request) (fs : FileSystem) (path : Text) : Prop where
  selected : ∃ tag ∈ r.tags, r.loader.layout.Selects fs r.bundle.source tag path ∧
    (Path.IsInside (r.loader.layout.directory r.bundle.source) path ↔ '/' ∉ tag)
  inside : '/' ∉ r.loader.layout.baseLang → (∀ text, r.locale = .text text → '/' ∉ text) →
    Path.IsInside (r.loader.layout.directory r.bundle.source) path

theorem slash_not_mem_of_mem_tags {tag : Text} (hbase : '/' ∉ r.loader.layout.baseLang)
    (hlocale : ∀ text, r.locale = .text text → '/' ∉ text) (htag : tag ∈ r.tags) : '/' ∉ tag := by
  rw [tags] at htag
  split at htag
  · rename_i locale heq
    exact Layout.slash_not_mem_of_mem_tags hbase (hlocale locale heq) htag
  · rw [List.mem_singleton.1 htag]
    exact hbase

theorem tags_of_not_text (h : ∀ text, r.locale ≠ .text text) :
    r.tags = [r.loader.layout.baseLang] := by
  rw [tags]
  split
  · rename_i locale heq
    exact absurd heq (h locale)
  · rfl

/-- A locale that is no text makes a load read the layer of the base language or nothing. -/
theorem mem_loadBase_of_mem_load [Platform] {call : FileCall} (h : ∀ text, r.locale ≠ .text text)
    (hcall : call ∈ (r.load fs s).1.journal.calls) :
    call ∈ (r.loader.layout.mergeLayer fs r.bundle.source []
      r.loader.layout.baseLang).journal.calls := by
  rw [load, Lookup.load.eq_def] at hcall
  split at hcall
  · rename_i text heq
    exact absurd heq (h text)
  · cases hcall
  · split at hcall
    · cases hcall
    · rcases Traced.mem_calls_bind_iff.1 hcall with hlog | ⟨_, -, hcall⟩
      · cases hlog
      · rcases Traced.mem_calls_bind_iff.1 hcall with hbase | ⟨_, -, hfail⟩
        · exact hbase
        · cases hfail

theorem calls_load_text [Platform] (loader : Loader) (bundle : Bundle) (text : Text) :
    (load ⟨loader, bundle, .text text⟩ fs s).1.journal.calls =
      (s.load fs loader bundle text).1.journal.calls := rfl

/-- A file that a request reads is selected by one of its tags. -/
theorem exists_selects_of_load [Platform] (h : .read path ∈ (r.load fs s).1.journal.calls) :
    ∃ tag ∈ r.tags, r.loader.layout.Selects fs r.bundle.source tag path := by
  by_cases htext : ∃ text, r.locale = .text text
  · obtain ⟨text, htext⟩ := htext
    rw [load, htext, Lookup.load_text] at h
    obtain ⟨tag, htag, hselects, -⟩ := Store.exists_selects_of_load h
    refine ⟨tag, ?_, hselects⟩
    rw [tags, htext]
    exact htag
  · have hne : ∀ text, r.locale ≠ .text text := by
      intro text heq
      exact htext ⟨text, heq⟩
    have hread := mem_loadBase_of_mem_load hne h
    refine ⟨_, ?_, Layout.read_mem_calls_mergeLayer_iff.1 hread⟩
    rw [tags_of_not_text hne]
    exact List.mem_singleton_self _

/-- A file that a request reads lies where its tags say. -/
theorem places_of_load [Platform] (h : .read path ∈ (r.load fs s).1.journal.calls) :
    r.Places fs path := by
  obtain ⟨tag, htag, hselects⟩ := exists_selects_of_load h
  refine ⟨⟨tag, htag, hselects, hselects.isInside_iff⟩, ?_⟩
  intro hbase hlocale
  exact hselects.isInside_iff.2 (slash_not_mem_of_mem_tags hbase hlocale htag)

end Request

/-- What a client is sent is read by the request for its tag. -/
theorem Localizer.calls_payload [Platform] (l : Localizer) (context : Option RequestContext)
    (source : Text) (accept : Option Text) :
    (l.payload fs context source accept s).1.journal.calls =
      ((l.request context ⟨source, none⟩ (.text (clientTag accept))).load fs
        s).1.journal.calls := by
  rw [payload_eq]
  generalize l.request context ⟨source, none⟩ (.text (clientTag accept)) = r
  cases hload : (r.load fs s).1.result with
  | error e => rw [Lookup.bind_of_error hload]
  | ok id =>
      rw [Lookup.bind_of_ok hload]
      exact List.append_nil _

/-- The locale that is loaded for a client has no slash if neither the first entry of its header
nor the current locale has one. -/
theorem Localizer.slash_not_mem_chosen {l : Localizer} {context : Option RequestContext}
    {accept : Option Text} {text : Text} (haccept : '/' ∉ Text.before ',' (accept.getD []))
    (hcurrent : ∀ text, l.current context = .text text → '/' ∉ text)
    (hchosen : l.chosen context (.text (clientTag accept)) = .text text) : '/' ∉ text := by
  rw [chosen] at hchosen
  split at hchosen
  · exact hcurrent text hchosen
  · cases hchosen
    rwa [slash_mem_clientTag_iff]

/-- Every file that is read for a locale lies where the tags of the locale say, whether a caller
gives the locale or a client sends it. What is read for a client is directly in the directory of the
resources if the first entry of its header has no slash, as long as the base language and the
current locale have none. -/
theorem places_of_read [Platform] (fs : FileSystem) (s : Store) :
    (∀ (r : Request) path, .read path ∈ (r.load fs s).1.journal.calls → r.Places fs path) ∧
    ∀ (l : Localizer) context source accept path,
      .read path ∈ (l.payload fs context source accept s).1.journal.calls →
        (l.request context ⟨source, none⟩ (.text (Localizer.clientTag accept))).Places fs path ∧
        ('/' ∉ l.loader.layout.baseLang →
          (∀ text, l.current context = .text text → '/' ∉ text) →
          '/' ∉ Text.before ',' (accept.getD []) →
          Path.IsInside (l.loader.layout.directory source) path) := by
  constructor
  · intro r path h
    exact Request.places_of_load h
  · intro l context source accept path h
    rw [Localizer.calls_payload] at h
    have hplaces := Request.places_of_load h
    refine ⟨hplaces, ?_⟩
    intro hbase hcurrent haccept
    refine hplaces.inside hbase ?_
    intro text hchosen
    exact Localizer.slash_not_mem_chosen haccept hcurrent hchosen

/-- A client that asks for German is sent what lies directly in the directory. -/
theorem places_of_read_menu :
    .read "/app/resources/menu-de.json".toList ∈
        (menuLocalizer.payload menu.fileSystem none menuSource (some "de".toList)
          Store.empty).1.journal.calls ∧
      Path.IsInside (englishLoader.layout.directory menuSource)
        "/app/resources/menu-de.json".toList := by
  have hrequest : menuLocalizer.request none ⟨menuSource, none⟩
      (.text (Localizer.clientTag (some "de".toList))) =
        ⟨englishLoader, ⟨menuSource, none⟩, .text "de".toList⟩ := by cbv
  have hlast : (Store.empty.load menu.fileSystem englishLoader ⟨menuSource, none⟩
      "de".toList).1.journal.calls.getLast? =
        some (.read "/app/resources/menu-de.json".toList) := by cbv
  have hread : .read "/app/resources/menu-de.json".toList ∈
      (menuLocalizer.payload menu.fileSystem none menuSource (some "de".toList)
        Store.empty).1.journal.calls := by
    rw [Localizer.calls_payload, hrequest, Request.calls_load_text]
    exact List.mem_of_getLast? hlast
  have hcurrent : ∀ text, menuLocalizer.current none = .text text → '/' ∉ text := by
    rintro _ ⟨⟩
    decide
  exact ⟨hread, ((places_of_read menu.fileSystem Store.empty).2 _ _ _ _ _ hread).2
    (by decide) hcurrent (by decide)⟩

/-- Texts one directory below that of the menu. -/
def secretMenu : Flat where
  files := [("/app/resources/menu-de/SECRET.json".toList,
    asciiBytes "\x7b\"key\": \"leaked\"\x7d")]
  directories := []

/-- A client that puts a slash into its header is sent texts from another directory. -/
theorem payload_reads_below :
    .read "/app/resources/menu-de/SECRET.json".toList ∈
        (menuLocalizer.payload secretMenu.fileSystem none menuSource (some "de/secret".toList)
          Store.empty).1.journal.calls ∧
      ¬ Path.IsInside (englishLoader.layout.directory menuSource)
        "/app/resources/menu-de/SECRET.json".toList := by
  have hrequest : menuLocalizer.request none ⟨menuSource, none⟩
      (.text (Localizer.clientTag (some "de/secret".toList))) =
        ⟨englishLoader, ⟨menuSource, none⟩, .text "de/SECRET".toList⟩ := by cbv
  have hlast : (Store.empty.load secretMenu.fileSystem englishLoader ⟨menuSource, none⟩
      "de/SECRET".toList).1.journal.calls.getLast? =
        some (.read "/app/resources/menu-de/SECRET.json".toList) := by cbv
  have hpath : "/app/resources/menu-de/SECRET.json".toList =
      Path.join (englishLoader.layout.directory menuSource) "menu-de/SECRET.json".toList := by cbv
  constructor
  · rw [Localizer.calls_payload, hrequest, Request.calls_load_text]
    exact List.mem_of_getLast? hlast
  · rw [hpath, Path.isInside_join_iff (by simp)]
    simp

end Phrasebook.Locale
