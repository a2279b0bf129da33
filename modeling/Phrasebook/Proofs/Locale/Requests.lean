import Phrasebook.Proofs.Locale.Lookups
import Phrasebook.Proofs.Resources.Memory

/-!
# The loads that a lookup makes

All that a lookup does to the store is to load: for each operation of the localizer there is a list
of requests, and the store that it leaves behind comes from making some of them in a row. Requests
made in a row let the store grow, and whatever is remembered after them and was not remembered
before is what one of them resolved its key to.
-/

namespace Phrasebook.Locale

open Resources

/-- What a load is asked for: a loader, a bundle and a locale. -/
structure Request where
  loader : Loader
  bundle : Bundle
  locale : Value

namespace Request

variable [Platform] {r : Request} {fs : FileSystem} {s : Store} {id : MappingId}

/-- Make a request. -/
def load (r : Request) (fs : FileSystem) : Lookup MappingId :=
  .load fs r.loader r.bundle r.locale

/-- A request asks a cache for a key if it has to be resolved where the cache has no mapping for
the key. -/
structure Asks (r : Request) (cache : CacheId) (key : BundleKey) : Prop where
  cache : r.loader.cache = cache
  bundle : r.bundle = ⟨key.source, none⟩
  locale : r.locale = .text key.locale

omit [Platform] in
theorem Asks.key_eq {cache other : CacheId} {key k : BundleKey} (h : r.Asks cache key)
    (hother : r.Asks other k) : key = k := by
  obtain ⟨source, locale⟩ := key
  obtain ⟨source', locale'⟩ := k
  have hbundle := h.bundle.symm.trans hother.bundle
  have hlocale := h.locale.symm.trans hother.locale
  cases hbundle
  cases hlocale
  rfl

/-- The mapping that stands in for the files of a bundle is given for every locale. -/
theorem load_of_precomputed (fs : FileSystem) (loader : Loader) (source : Text) (id : MappingId)
    (locale : Value) (s : Store) :
    Lookup.load fs loader ⟨source, some id⟩ locale s = (.of (.ok id), s) := by
  cases locale <;> rfl

/-- A key that is remembered is not resolved again. -/
theorem load_of_held {cache : CacheId} {key : BundleKey} (hasks : r.Asks cache key)
    (hheld : s.held cache key = some id) (fs : FileSystem) :
    r.load fs s = (.of (.ok id), s) := by
  obtain ⟨loader, bundle, locale⟩ := r
  obtain ⟨rfl, rfl, rfl⟩ := hasks
  rw [load, Lookup.load_text, Store.load_of_cached hheld]
  rfl

theorem load_of_resolved {cache : CacheId} {key : BundleKey} {entries : Entries}
    (hasks : r.Asks cache key) (hmiss : s.held cache key = none)
    (hresolve : (r.loader.layout.resolve fs key.source key.locale).result = .ok entries) :
    r.load fs s =
      (⟨.ok s.nextId, Store.resolvingJournal fs r.loader.layout key.source key.locale⟩,
        s.resolvedTo cache key entries) := by
  obtain ⟨loader, bundle, locale⟩ := r
  obtain ⟨rfl, rfl, rfl⟩ := hasks
  rw [load, Lookup.load_text, Store.load_of_resolved hmiss hresolve]
  rfl

theorem load_of_unresolved {cache : CacheId} {key : BundleKey} {e : LoadError}
    (hasks : r.Asks cache key) (hmiss : s.held cache key = none)
    (hresolve : (r.loader.layout.resolve fs key.source key.locale).result = .error e) :
    r.load fs s =
      (⟨.error (.load e), Store.resolvingJournal fs r.loader.layout key.source key.locale⟩, s) := by
  obtain ⟨loader, bundle, locale⟩ := r
  obtain ⟨rfl, rfl, rfl⟩ := hasks
  rw [load, Lookup.load_text, Store.load_of_unresolved hmiss hresolve]
  rfl

/-- Files are never resolved for a locale that is no text. -/
theorem load_ne_ok_of_not_text {locale : Value} (h : ∀ tag, locale ≠ .text tag)
    (loader : Loader) (source : Text) :
    (Lookup.load fs loader ⟨source, none⟩ locale s).1.result ≠ .ok id := by
  intro hload
  rw [Lookup.load.eq_def] at hload
  split at hload
  · exact absurd rfl (h _)
  · rename_i hsome
    cases hsome
  · split at hload
    · cases hload
    · obtain ⟨_, _, hbase⟩ := Traced.result_bind_eq_ok_iff.1 hload
      obtain ⟨_, _, hfail⟩ := Traced.result_bind_eq_ok_iff.1 hbase
      cases hfail

/-- A request gives the mapping that stands in for the files of its bundle, or one that is
remembered from then on. -/
theorem load_eq_ok_cases (h : (r.load fs s).1.result = .ok id) :
    r.bundle.precomputed = some id ∧ (r.load fs s).2 = s ∨
      ∃ key, r.Asks r.loader.cache key ∧
        (r.load fs s).2.held r.loader.cache key = some id := by
  obtain ⟨loader, ⟨source, precomputed⟩, locale⟩ := r
  cases precomputed with
  | some other =>
      rw [load, load_of_precomputed] at h ⊢
      cases h
      exact .inl ⟨rfl, rfl⟩
  | none =>
      by_cases htext : ∃ tag, locale = .text tag
      · obtain ⟨tag, rfl⟩ := htext
        have hasks : Asks ⟨loader, ⟨source, none⟩, .text tag⟩ loader.cache ⟨source, tag⟩ :=
          ⟨rfl, rfl, rfl⟩
        refine .inr ⟨⟨source, tag⟩, hasks, ?_⟩
        cases hcached : s.held loader.cache ⟨source, tag⟩ with
        | some other =>
            rw [load_of_held hasks hcached] at h ⊢
            cases h
            exact hcached
        | none =>
            cases hresolve : (loader.layout.resolve fs source tag).result with
            | error e =>
                rw [load_of_unresolved hasks hcached hresolve] at h
                cases h
            | ok entries =>
                rw [load_of_resolved hasks hcached hresolve] at h ⊢
                cases h
                rw [Store.held_resolvedTo]
                exact if_pos ⟨rfl, rfl⟩
      · have hne : ∀ tag, locale ≠ .text tag := by
          intro tag heq
          exact htext ⟨tag, heq⟩
        exact absurd h (load_ne_ok_of_not_text hne loader source)

/-- A locale that is no text resolves nothing. -/
theorem load_store_of_not_text {locale : Value} (h : ∀ tag, locale ≠ .text tag)
    (loader : Loader) (bundle : Bundle) : (Lookup.load fs loader bundle locale s).2 = s := by
  rw [Lookup.load.eq_def]
  split
  · exact absurd rfl (h _)
  · rfl
  · split
    · rfl
    · rfl

/-- A request leaves the store as it is or resolves the key that it asks for. -/
theorem load_store_cases (r : Request) (fs : FileSystem) (s : Store) :
    (r.load fs s).2 = s ∨ ∃ key entries, r.Asks r.loader.cache key ∧
      s.held r.loader.cache key = none ∧
      (r.loader.layout.resolve fs key.source key.locale).result = .ok entries ∧
      (r.load fs s).2 = s.resolvedTo r.loader.cache key entries := by
  obtain ⟨loader, ⟨source, precomputed⟩, locale⟩ := r
  by_cases htext : ∃ tag, locale = .text tag
  · obtain ⟨tag, rfl⟩ := htext
    rcases s.load_store_cases fs loader ⟨source, precomputed⟩ tag with
      hsame | ⟨entries, rfl, hmiss, hresolve, hstore⟩
    · exact .inl hsame
    · exact .inr ⟨⟨source, tag⟩, entries, ⟨rfl, rfl, rfl⟩, hmiss, hresolve, hstore⟩
  · have hne : ∀ tag, locale ≠ .text tag := by
      intro tag heq
      exact htext ⟨tag, heq⟩
    exact .inl (load_store_of_not_text hne loader _)

/-- A request that fails leaves the store as it is. -/
theorem load_store_of_error {e : Error} (h : (r.load fs s).1.result = .error e) :
    (r.load fs s).2 = s := by
  rcases r.load_store_cases fs s with hsame | ⟨key, entries, hasks, hmiss, hresolve, _⟩
  · exact hsame
  · rw [load_of_resolved hasks hmiss hresolve] at h
    cases h

theorem grows_load (r : Request) (fs : FileSystem) (s : Store) : s.Grows (r.load fs s).2 := by
  rcases r.load_store_cases fs s with hsame | ⟨key, entries, _, hmiss, _, hstore⟩
  · rw [hsame]
    exact .refl s
  · rw [hstore]
    exact Store.grows_resolvedTo entries hmiss

theorem isSound_load (h : s.IsSound) (r : Request) (fs : FileSystem) :
    (r.load fs s).2.IsSound := by
  rcases r.load_store_cases fs s with hsame | ⟨key, entries, _, _, _, hstore⟩
  · rw [hsame]
    exact h
  · rw [hstore]
    exact h.resolvedTo _ key entries

/-! ## Requests in a row -/

/-- The store after requests that are made one after the other, whether they succeed or not. -/
def loadAll (fs : FileSystem) (s : Store) : List Request → Store
  | [] => s
  | r :: rest => loadAll fs (r.load fs s).2 rest

theorem loadAll_append (fs : FileSystem) (s : Store) (first second : List Request) :
    loadAll fs s (first ++ second) = loadAll fs (loadAll fs s first) second := by
  induction first generalizing s with
  | nil => rfl
  | cons r rest ih => exact ih _

theorem grows_loadAll (fs : FileSystem) (s : Store) (requests : List Request) :
    s.Grows (loadAll fs s requests) := by
  induction requests generalizing s with
  | nil => exact .refl s
  | cons r rest ih => exact (r.grows_load fs s).trans (ih _)

theorem isSound_loadAll (h : s.IsSound) (fs : FileSystem) (requests : List Request) :
    (loadAll fs s requests).IsSound := by
  induction requests generalizing s with
  | nil => exact h
  | cons r rest ih => exact ih (r.isSound_load h fs)

/-- What is remembered after some requests was remembered before, or one of them asked for it and
resolved it to a new mapping. -/
theorem held_loadAll {requests : List Request} {cache : CacheId} {key : BundleKey}
    (hheld : (loadAll fs s requests).held cache key = some id) :
    s.held cache key = some id ∨
      s.held cache key = none ∧ s.nextId ≤ id ∧ ∃ r ∈ requests, r.Asks cache key ∧
        (r.loader.layout.resolve fs key.source key.locale).result =
          .ok ((loadAll fs s requests).entries id) := by
  induction requests generalizing s with
  | nil => exact .inl hheld
  | cons r rest ih =>
      change (loadAll fs (r.load fs s).2 rest).held cache key = some id at hheld
      have hgrows := r.grows_load fs s
      -- What the first request made has its entries from then on, as the store only grows.
      rcases ih hheld with hbefore | ⟨hnone, hnew, maker, hmaker, hasks, hresolve⟩
      · rcases r.load_store_cases fs s with
          hsame | ⟨asked, entries, hasks, hmiss, hresolve, hstore⟩
        · rw [hsame] at hbefore
          exact .inl hbefore
        · rw [hstore, Store.held_resolvedTo] at hbefore
          split at hbefore
          · rename_i hnew
            obtain ⟨rfl, rfl⟩ := hnew
            cases hbefore
            have hentries : (loadAll fs s (r :: rest)).entries s.nextId = entries := by
              rw [loadAll, (grows_loadAll fs _ rest).entries, hstore,
                Store.entries_resolvedTo_nextId]
              rw [hstore, Store.nextId_resolvedTo]
              exact Nat.lt_succ_self _
            exact .inr ⟨hmiss, Nat.le_refl _, r, List.mem_cons_self, hasks, hentries ▸ hresolve⟩
          · exact .inl hbefore
      · exact .inr ⟨hgrows.held_none hnone, Nat.le_trans hgrows.nextId hnew, maker,
          List.mem_cons_of_mem r hmaker, hasks, hresolve⟩

end Request

/-! ## Lookups that make requests -/

variable [Platform]

/-- A lookup makes no requests but those of a list. -/
def Lookup.Makes {α : Type} (x : Lookup α) (fs : FileSystem) (requests : List Request) : Prop :=
  ∀ s, ∃ made, (∀ r ∈ made, r ∈ requests) ∧ (x s).2 = Request.loadAll fs s made

namespace Lookup.Makes

variable {α β : Type} {fs : FileSystem} {requests more : List Request} {x : Lookup α}

theorem of_store (h : ∀ s, (x s).2 = s) : x.Makes fs requests := by
  intro s
  refine ⟨[], ?_, h s⟩
  intro r hr
  cases hr

theorem pure (a : α) : (Pure.pure a : Lookup α).Makes fs requests :=
  of_store fun _ => rfl

theorem ofExcept (result : Except Error α) : (Lookup.ofExcept result).Makes fs requests :=
  of_store fun _ => rfl

theorem entries (id : MappingId) : (Lookup.entries id).Makes fs requests :=
  of_store fun _ => rfl

theorem load {r : Request} (h : r ∈ requests) : (r.load fs).Makes fs requests := by
  intro s
  refine ⟨[r], ?_, rfl⟩
  intro other hother
  cases List.mem_singleton.1 hother
  exact h

theorem bind {f : α → Lookup β} (hx : x.Makes fs requests) (hf : ∀ a, (f a).Makes fs requests) :
    (x >>= f).Makes fs requests := by
  intro s
  obtain ⟨made, hmade, hstore⟩ := hx s
  rcases x.bind_store f s with hstop | ⟨a, hgo⟩
  · exact ⟨made, hmade, hstop.trans hstore⟩
  · obtain ⟨after, hafter, hstore'⟩ := hf a (x s).2
    refine ⟨made ++ after, ?_, ?_⟩
    · intro r hr
      rcases List.mem_append.1 hr with hfirst | hsecond
      · exact hmade r hfirst
      · exact hafter r hsecond
    · rw [hgo, hstore', hstore, Request.loadAll_append]

end Lookup.Makes

namespace Localizer

variable (l : Localizer) (fs : FileSystem) (context : Option RequestContext) (bundle : Bundle)

/-- The request that a lookup makes. -/
def request (locale : Value) : Request :=
  ⟨l.loader, bundle, l.chosen context locale⟩

variable {requests : List Request}

theorem lookup_makes (key : Value) {locale : Value}
    (h : l.request context bundle locale ∈ requests) :
    (l.lookup fs context bundle key locale).Makes fs requests := by
  apply (Lookup.Makes.load h).bind
  intro id
  apply (Lookup.Makes.entries id).bind
  intro entries
  exact .ofExcept _

theorem formatLocale_makes {locale : Value} (h : l.request context bundle locale ∈ requests)
    (args : List Value) :
    (l.formatLocale fs context locale bundle args).Makes fs requests := by
  cases args with
  | nil => exact .ofExcept _
  | cons key rest =>
      apply (l.lookup_makes fs context bundle key h).bind
      intro template
      exact .ofExcept _

/-- The requests for the texts in all known languages. -/
def languageRequests : List Request :=
  longCodes.map fun (language, _) => l.request context bundle (.text language)

theorem formatLanguages_makes (key : Value) (default : Text) {languages : List (Text × Text)}
    (h : ∀ language code, (language, code) ∈ languages →
      l.request context bundle (.text language) ∈ requests) :
    (l.formatLanguages fs context bundle key default languages).Makes fs requests := by
  induction languages with
  | nil => exact .pure []
  | cons entry rest ih =>
      obtain ⟨language, code⟩ := entry
      have hfirst := h language code List.mem_cons_self
      apply (l.formatLocale_makes fs context bundle hfirst [key]).bind
      intro text
      have hrest := ih fun other code' hother => h other code' (List.mem_cons_of_mem _ hother)
      apply hrest.bind
      intro others
      exact .pure _

/-- The requests for the text of a key in the current locale and in all known languages. -/
def allRequests : List Request :=
  l.request context bundle (l.current context) :: l.languageRequests context bundle

theorem formatAll_makes (key : Value) :
    (l.formatAll fs context bundle key).Makes fs (l.allRequests context bundle) := by
  have hlanguages : ∀ language code, (language, code) ∈ longCodes →
      l.request context bundle (.text language) ∈ l.allRequests context bundle := by
    intro language code hcode
    exact List.mem_cons_of_mem _ (List.mem_map.2 ⟨(language, code), hcode, rfl⟩)
  apply (l.formatLocale_makes fs context bundle List.mem_cons_self [key]).bind
  intro default
  apply (l.formatLanguages_makes fs context bundle key default hlanguages).bind
  intro others
  exact .pure _

/-- What is sent to a client is what the request for its tag gives, as JSON. -/
theorem payload_eq (source : Text) (accept : Option Text) :
    l.payload fs context source accept =
      ((l.request context ⟨source, none⟩ (.text (clientTag accept))).load fs >>= fun id => do
        let entries ← Lookup.entries id
        return Json.write entries) := rfl

theorem payload_makes (source : Text) (accept : Option Text) :
    (l.payload fs context source accept).Makes fs
      [l.request context ⟨source, none⟩ (.text (clientTag accept))] := by
  apply (Lookup.Makes.load List.mem_cons_self).bind
  intro id
  apply (Lookup.Makes.entries id).bind
  intro entries
  exact .pure _

end Localizer

end Phrasebook.Locale
