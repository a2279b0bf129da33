import Phrasebook.Proofs.Locale.Requests

/-!
# What a request gives

The outcome of a request is the entries of its mapping or an error. For a key that is remembered it
is what the cache has, and for one that is not it is what the files make of the key, the same in
every store. What is sent to a client is the outcome of one request, written as JSON.
-/

namespace Phrasebook.Locale

open Resources

namespace Request

variable {r : Request} {fs : FileSystem} {s : Store} {cache : CacheId} {key : BundleKey}

/-- The request for the files of a source in a locale. -/
def ofFiles (loader : Loader) (source locale : Text) : Request :=
  ⟨loader, ⟨source, none⟩, .text locale⟩

theorem asks_ofFiles (loader : Loader) (source locale : Text) :
    (ofFiles loader source locale).Asks loader.cache ⟨source, locale⟩ :=
  ⟨rfl, rfl, rfl⟩

/-- The entries of the mapping that a request gives, or its error. -/
def items [Platform] (r : Request) (fs : FileSystem) (s : Store) : Except Error Entries :=
  (r.load fs s).1.result.map (r.load fs s).2.entries

/-- What a request gives when its loader has a cache of its own with nothing in it. -/
def alone [Platform] (r : Request) (fs : FileSystem) : Except Error Entries :=
  r.items fs .empty

theorem items_of_held [Platform] {id : MappingId} (hasks : r.Asks cache key)
    (hheld : s.held cache key = some id) (fs : FileSystem) :
    r.items fs s = .ok (s.entries id) := by
  rw [items, load_of_held hasks hheld]
  rfl

/-- A key that is not remembered is resolved, with the same outcome in every store. -/
theorem items_of_missed [Platform] (hasks : r.Asks cache key) (hmiss : s.held cache key = none) :
    r.items fs s =
      (r.loader.layout.resolve fs key.source key.locale).result.mapError .load := by
  cases hresolve : (r.loader.layout.resolve fs key.source key.locale).result with
  | error e =>
      rw [items, load_of_unresolved hasks hmiss hresolve]
      rfl
  | ok entries =>
      rw [items, load_of_resolved hasks hmiss hresolve]
      exact congrArg Except.ok (s.entries_resolvedTo_nextId cache key entries)

theorem alone_eq [Platform] (hasks : r.Asks cache key) (fs : FileSystem) :
    r.alone fs = (r.loader.layout.resolve fs key.source key.locale).result.mapError .load :=
  items_of_missed hasks rfl

theorem alone_eq_ok_iff [Platform] {entries : Entries} (hasks : r.Asks cache key) :
    r.alone fs = .ok entries ↔
      (r.loader.layout.resolve fs key.source key.locale).result = .ok entries := by
  rw [alone_eq hasks]
  cases (r.loader.layout.resolve fs key.source key.locale).result with
  | error e => simp [Except.mapError]
  | ok other => simp [Except.mapError]

end Request

namespace Localizer

variable {l : Localizer} {source : Text} {context other : Option RequestContext}

/-- The text that is sent to a client holds what the request for its tag gives. -/
theorem result_payload [Platform] (l : Localizer) (fs : FileSystem)
    (context : Option RequestContext) (source : Text) (accept : Option Text) (s : Store) :
    (l.payload fs context source accept s).1.result =
      ((l.request context ⟨source, none⟩ (.text (clientTag accept))).items fs s).map
        Json.write := by
  rw [payload_eq]
  generalize l.request context ⟨source, none⟩ (.text (clientTag accept)) = r
  rw [Request.items]
  cases hload : (r.load fs s).1.result with
  | error e =>
      rw [Lookup.bind_of_error hload]
      rfl
  | ok id =>
      rw [Lookup.bind_of_ok hload]
      rfl

/-- The context matters to what is sent to a client by way of the request for its tag alone. -/
theorem payload_congr [Platform] {accept : Option Text}
    (h : l.request context ⟨source, none⟩ (.text (clientTag accept)) =
      l.request other ⟨source, none⟩ (.text (clientTag accept))) (fs : FileSystem) :
    l.payload fs context source accept = l.payload fs other source accept := by
  rw [payload_eq, payload_eq, h]

end Localizer

end Phrasebook.Locale
