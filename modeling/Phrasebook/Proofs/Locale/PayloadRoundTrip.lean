import Phrasebook.Proofs.Locale.ClientTags
import Phrasebook.Proofs.Resources.DistinctKeys
import Phrasebook.Proofs.Resources.WrittenFiles

/-!
# What a client is sent reads back

A client that is sent the texts of a source can read them with the reader of resource files, and
finds the entries that a load of its tag gives, nulls included and in their order. Sent on into the
only file of another source, they are what a load of the base language of that source gives. All
that is asked of the store is that no mapping has a key twice, as in every store that a session
comes to.
-/

namespace Phrasebook.Locale

open Resources

namespace Request

variable {r : Request} {fs : FileSystem} {s : Store} {cache : CacheId} {key : BundleKey}
  {entries : Entries}

/-- What a request for files gives has distinct keys if the mappings that are there have. -/
theorem nodup_keys_of_items [Platform] (hasks : r.Asks cache key) (hkeys : s.HasDistinctKeys)
    (h : r.items fs s = .ok entries) : entries.keys.Nodup := by
  cases hheld : s.held cache key with
  | some id =>
      rw [items_of_held hasks hheld] at h
      cases h
      exact hkeys.entries id
  | none =>
      have halone : r.alone fs = .ok entries := by
        rw [alone_eq hasks, ← items_of_missed hasks hheld, h]
      exact Layout.nodup_keys_of_resolve ((alone_eq_ok_iff hasks).1 halone)

end Request

namespace Localizer

variable {l : Localizer} {fs : FileSystem} {s : Store} {context : Option RequestContext}
  {source text : Text} {accept : Option Text}

/-- A header that is missing or empty, or has a first entry, does not begin with a comma. -/
theorem head?_ne_comma (h : accept.getD [] = [] ∨ Text.before ',' (accept.getD []) ≠ []) :
    (accept.getD []).head? ≠ some ',' := by
  intro hcomma
  rcases h with hempty | hentry
  · rw [hempty] at hcomma
    cases hcomma
  · exact hentry (Text.before_eq_nil_iff.2 (.inr hcomma))

/-- What a client with a tag is sent is what the request for the tag gives. -/
theorem exists_items_of_payload [Platform] (haccept : (accept.getD []).head? ≠ some ',')
    (h : (l.payload fs context source accept s).1.result = .ok text) :
    ∃ entries, (Request.ofFiles l.loader source (clientTag accept)).items fs s = .ok entries ∧
      text = Json.write entries := by
  rw [result_payload, request_of_tag haccept] at h
  change ((Request.ofFiles l.loader source (clientTag accept)).items fs s).map _ = _ at h
  cases hitems : (Request.ofFiles l.loader source (clientTag accept)).items fs s with
  | error e =>
      rw [hitems] at h
      cases h
  | ok entries =>
      rw [hitems] at h
      cases h
      exact ⟨entries, rfl, rfl⟩

/-- What a client is sent reads back as the entries that a load of its tag gives. Written into the
only file of another source, it loads as the same entries, whether line ends are translated when the
file is read or not. -/
theorem payload_round_trip [Platform] (l : Localizer) (fs : FileSystem)
    (context : Option RequestContext)
    (source : Text) (accept : Option Text) (hkeys : s.HasDistinctKeys)
    (haccept : accept.getD [] = [] ∨ Text.before ',' (accept.getD []) ≠ [])
    (h : (l.payload fs context source accept s).1.result = .ok text) :
    ∃ entries, (Request.ofFiles l.loader source (clientTag accept)).items fs s = .ok entries ∧
      Json.read text = .ok (.object (Json.members entries)) ∧
      ∀ (loader : Loader) (other path : Text) (files : FileSystem) (t : Store),
        loader.layout.HoldsOnly files other path (Text.Utf8.encode text) →
        t.held loader.cache ⟨other, loader.layout.baseLang⟩ = none →
        (Request.ofFiles loader other loader.layout.baseLang).items files t = .ok entries := by
  obtain ⟨entries, hitems, rfl⟩ := exists_items_of_payload (head?_ne_comma haccept) h
  have hnodup := Request.nodup_keys_of_items (Request.asks_ofFiles _ _ _) hkeys hitems
  refine ⟨entries, hitems, Json.read_write hnodup, ?_⟩
  intro loader other path files t hholds hmiss
  rw [Request.items_of_missed (Request.asks_ofFiles _ _ _) hmiss]
  change (loader.layout.resolve files other loader.layout.baseLang).result.mapError _ = _
  rw [hholds.resolve hnodup]
  rfl

/-- A source beside the menu. -/
def copySource : Text := "/app/copy.py".toList

/-- The file of the source beside the menu for English. -/
def copyPath : Text := "/app/resources/copy-en.json".toList

/-- A text as the English file of the source beside the menu. -/
def copyOf (text : Text) : Flat where
  files := [(copyPath, Text.Utf8.encode text)]
  directories := []

theorem holdsOnly_copyOf (text : Text) : englishLoader.layout.HoldsOnly (copyOf text).fileSystem
    copySource copyPath (Text.Utf8.encode text) := by
  have hdirectory : (copyOf text).fileSystem.present (englishLoader.layout.directory copySource) =
      .ok true := by
    cbv
  have hfile : (findFile (copyOf text).fileSystem (englishLoader.layout.directory copySource)
      (stem copySource) "en".toList).result = .ok (some copyPath) := by
    cbv
  have hread : (copyOf text).fileSystem.read copyPath = decodeText (Text.Utf8.encode text) := by
    simp [copyOf, Flat.fileSystem, Dict.get?]
  refine ⟨⟨hdirectory, hfile⟩, ⟨hdirectory, ?_⟩, .inl hread⟩
  intro tag htag
  have htags : englishLoader.layout.tags "en".toList = ["en".toList] := by decide
  rw [List.mem_singleton.1 (htags ▸ htag : tag ∈ ["en".toList])]
  exact ⟨_, hfile, fun _ h => (Option.some.inj h).symm⟩

/-- The menu in German as a client is sent it. -/
def germanMenu : Text :=
  "\x7b\"title\": \"Start\", \"back\": null, \"help\": \"Hilfe\"\x7d".toList

/-- A copy of the German menu that was sent to a client loads as the German menu. -/
theorem payload_round_trip_menu :
    Store.empty.HasDistinctKeys ∧ ((some "de,en".toList).getD [] = [] ∨
      Text.before ',' ((some "de,en".toList).getD []) ≠ []) ∧
    (menuLocalizer.payload menu.fileSystem none menuSource (some "de,en".toList) .empty).1.result =
      .ok germanMenu ∧
    ∃ entries, (Request.ofFiles englishLoader menuSource "de".toList).items menu.fileSystem
        .empty = .ok entries ∧
      Json.read germanMenu = .ok (.object (Json.members entries)) ∧
      (Request.ofFiles englishLoader copySource "en".toList).items
        (copyOf germanMenu).fileSystem .empty = .ok entries := by
  have haccept : (some "de,en".toList).getD [] = [] ∨
      Text.before ',' ((some "de,en".toList).getD []) ≠ [] := by decide
  have hpayload : (menuLocalizer.payload menu.fileSystem none menuSource (some "de,en".toList)
      .empty).1.result = .ok germanMenu := by
    cbv
  have htag : clientTag (some "de,en".toList) = "de".toList := by cbv
  obtain ⟨entries, hitems, hread, hcopy⟩ :=
    payload_round_trip menuLocalizer menu.fileSystem none menuSource (some "de,en".toList)
      Store.hasDistinctKeys_empty haccept hpayload
  rw [htag] at hitems
  exact ⟨Store.hasDistinctKeys_empty, haccept, hpayload, entries, hitems, hread,
    hcopy englishLoader copySource copyPath _ .empty (holdsOnly_copyOf germanMenu) rfl⟩

end Localizer

end Phrasebook.Locale
