import Phrasebook.Proofs.Locale.Outcomes
import Phrasebook.Proofs.Resources.LoadedLayers

/-!
# Loaders that share a cache

A cache remembers a mapping by its source and its locale. The base language and the directory that
a loader resolves with are no part of that key, so loaders that share a cache serve what the first
of them resolved. The cache goes unnoticed exactly if it would make no difference which of the
loaders that is.
-/

namespace Phrasebook.Locale

open Resources

namespace Request

variable {r : Request} {fs : FileSystem} {s : Store} {cache : CacheId} {key : BundleKey}

/-- The key that a request looks up in its cache, if it does. -/
def key? (r : Request) : Option BundleKey :=
  match r.bundle.precomputed, r.locale with
  | none, .text locale => some ⟨r.bundle.source, locale⟩
  | _, _ => none

theorem asks_iff : r.Asks cache key ↔ r.loader.cache = cache ∧ r.key? = some key := by
  obtain ⟨loader, ⟨source, precomputed⟩, locale⟩ := r
  obtain ⟨source', locale'⟩ := key
  constructor
  · rintro ⟨hcache, hbundle, hlocale⟩
    cases hbundle
    cases hlocale
    exact ⟨hcache, rfl⟩
  · rintro ⟨hcache, hkey⟩
    unfold key? at hkey
    split at hkey
    · rename_i hprecomputed hlocale
      cases hprecomputed
      cases hlocale
      cases hkey
      exact ⟨hcache, rfl, rfl⟩
    · cases hkey

instance (r : Request) (cache : CacheId) (key : BundleKey) : Decidable (r.Asks cache key) :=
  decidable_of_iff _ asks_iff.symm

/-! ## What a run of requests leaves in a cache -/

/-- What a request has to offer for a key of a cache: what it gives alone, if it asks for the key
and succeeds. -/
def offer [Platform] (fs : FileSystem) (cache : CacheId) (key : BundleKey) (r : Request) :
    Option Entries :=
  if r.Asks cache key then (r.alone fs).toOption else none

theorem offer_eq_some_iff [Platform] {entries : Entries} :
    r.offer fs cache key = some entries ↔ r.Asks cache key ∧ r.alone fs = .ok entries := by
  rw [offer]
  split
  · rename_i hasks
    cases r.alone fs with
    | error e => simp [Except.toOption]
    | ok other => simp [hasks, Except.toOption]
  · rename_i hnot
    simp [hnot]

/-- What the first request of a run that resolves a key has made of it. -/
def firstOffer [Platform] (fs : FileSystem) (cache : CacheId) (key : BundleKey)
    (run : List Request) :
    Option Entries :=
  run.findSome? (offer fs cache key)

theorem load_store_of_offer [Platform] {entries : Entries} (hmiss : s.held cache key = none)
    (h : r.offer fs cache key = some entries) :
    (r.load fs s).2 = s.resolvedTo cache key entries := by
  obtain ⟨hasks, halone⟩ := offer_eq_some_iff.1 h
  rw [load_of_resolved hasks hmiss ((alone_eq_ok_iff hasks).1 halone)]

/-- A request with nothing to offer for a key does not make a cache remember it. -/
theorem held_load_of_no_offer [Platform] (hmiss : s.held cache key = none)
    (h : r.offer fs cache key = none) : (r.load fs s).2.held cache key = none := by
  rcases r.load_store_cases fs s with hsame | ⟨k, entries, hasks, -, hresolve, hstore⟩
  · rw [hsame]
    exact hmiss
  · rw [hstore, Store.held_resolvedTo, if_neg]
    · exact hmiss
    · rintro ⟨rfl, rfl⟩
      rw [offer_eq_some_iff.2 ⟨hasks, (alone_eq_ok_iff hasks).2 hresolve⟩] at h
      cases h

/-- After a run a cache remembers for a key that it did not remember before what the first request
to resolve the key has made of it. -/
theorem held_loadAll_of_missed [Platform] (hmiss : s.held cache key = none) (fs : FileSystem)
    (run : List Request) :
    ((loadAll fs s run).held cache key).map (loadAll fs s run).entries =
      firstOffer fs cache key run := by
  induction run generalizing s with
  | nil =>
      rw [loadAll, hmiss]
      rfl
  | cons r rest ih =>
      rw [loadAll, firstOffer, List.findSome?_cons]
      cases hoffer : r.offer fs cache key with
      | none => exact ih (held_load_of_no_offer hmiss hoffer)
      | some entries =>
          rw [load_store_of_offer hmiss hoffer]
          have hgrows := grows_loadAll fs (s.resolvedTo cache key entries) rest
          have hheld : (s.resolvedTo cache key entries).held cache key = some s.nextId := by
            rw [Store.held_resolvedTo]
            exact if_pos ⟨rfl, rfl⟩
          have hknown : s.nextId < (s.resolvedTo cache key entries).nextId := by
            rw [Store.nextId_resolvedTo]
            exact Nat.lt_succ_self _
          rw [hgrows.held hheld, Option.map_some, hgrows.entries hknown,
            Store.entries_resolvedTo_nextId]

/-- A request after a run gives what the first request to resolve its key has made of it, or what
it gives alone if there was none. -/
theorem items_loadAll [Platform] (hasks : r.Asks cache key) (hmiss : s.held cache key = none)
    (fs : FileSystem) (run : List Request) :
    r.items fs (loadAll fs s run) = (firstOffer fs cache key run).elim (r.alone fs) .ok := by
  rw [← held_loadAll_of_missed hmiss fs run]
  cases hheld : (loadAll fs s run).held cache key with
  | none =>
      rw [items_of_missed hasks hheld, ← alone_eq hasks fs]
      rfl
  | some id => exact items_of_held hasks hheld fs

/-! ## Transparency -/

/-- Loaders resolve alike if what one of them makes of a source and a locale is what all of them
make of it. -/
def ResolveAlike [Platform] (fs : FileSystem) (loaders : Set Loader) : Prop :=
  ∀ maker ∈ loaders, ∀ loader ∈ loaders, ∀ (source locale : Text) (entries : Entries),
    (maker.layout.resolve fs source locale).result = .ok entries →
    (loader.layout.resolve fs source locale).result = .ok entries

/-- A loader serves what another one with the same cache has just resolved. -/
theorem items_after_maker [Platform] {maker loader : Loader} {source locale : Text}
    {entries : Entries}
    (hmaker : maker.cache = cache) (hloader : loader.cache = cache)
    (hmiss : s.held cache ⟨source, locale⟩ = none)
    (hresolve : (maker.layout.resolve fs source locale).result = .ok entries) :
    (ofFiles loader source locale).items fs (loadAll fs s [ofFiles maker source locale]) =
      .ok entries := by
  have hmakes : (ofFiles maker source locale).Asks cache ⟨source, locale⟩ :=
    hmaker ▸ asks_ofFiles maker source locale
  have hasks : (ofFiles loader source locale).Asks cache ⟨source, locale⟩ :=
    hloader ▸ asks_ofFiles loader source locale
  have hoffer := offer_eq_some_iff.2 ⟨hmakes, (alone_eq_ok_iff hmakes).2 hresolve⟩
  rw [items_loadAll hasks hmiss, firstOffer, List.findSome?_cons, hoffer]
  rfl

/-- Among loaders that resolve alike it makes no difference which of them has filled the cache. -/
theorem alone_of_items_loadAll [Platform] {loaders : Set Loader} {run : List Request}
    {entries : Entries}
    (halike : ResolveAlike fs loaders) (hrun : ∀ q ∈ run, q.loader ∈ loaders)
    (hr : r.loader ∈ loaders) (hasks : r.Asks cache key) (hmiss : s.held cache key = none)
    (hitems : r.items fs (loadAll fs s run) = .ok entries) : r.alone fs = .ok entries := by
  rw [items_loadAll hasks hmiss] at hitems
  cases hfirst : firstOffer fs cache key run with
  | none =>
      rw [hfirst] at hitems
      exact hitems
  | some made =>
      rw [hfirst] at hitems
      cases hitems
      obtain ⟨maker, hmaker, hoffer⟩ := List.exists_of_findSome?_eq_some hfirst
      obtain ⟨hmakes, halone⟩ := offer_eq_some_iff.1 hoffer
      have hresolve := (alone_eq_ok_iff hmakes).1 halone
      exact (alone_eq_ok_iff hasks).2 (halike _ (hrun maker hmaker) _ hr _ _ _ hresolve)

/-- Loaders that share a cache serve what the first of them to resolve a source and a locale has
made of it. They serve what each of them would serve with a cache of its own, after whatever run of
loads, exactly if they resolve alike. -/
theorem items_shared [Platform] {loaders : Set Loader}
    (hshared : ∀ loader ∈ loaders, loader.cache = cache)
    (hempty : s.cache cache = []) (fs : FileSystem) :
    (∀ (run : List Request) (r : Request) (key : BundleKey), r.Asks cache key →
      r.items fs (loadAll fs s run) = (firstOffer fs cache key run).elim (r.alone fs) .ok) ∧
    ((∀ (run : List Request) (r : Request) (key : BundleKey) (entries : Entries),
        (∀ q ∈ run, q.loader ∈ loaders) → r.loader ∈ loaders → r.Asks cache key →
        r.items fs (loadAll fs s run) = .ok entries → r.alone fs = .ok entries) ↔
      ResolveAlike fs loaders) := by
  have hmiss : ∀ key, s.held cache key = none := by
    intro key
    rw [Store.held, hempty]
    rfl
  refine ⟨fun run r key hasks => items_loadAll hasks (hmiss key) fs run, ?_, ?_⟩
  · intro htransparent maker hmaker loader hloader source locale entries hresolve
    have hasks : (ofFiles loader source locale).Asks cache ⟨source, locale⟩ :=
      hshared loader hloader ▸ asks_ofFiles loader source locale
    have hserved :=
      items_after_maker (hshared maker hmaker) (hshared loader hloader) (hmiss _) hresolve
    have hmembers : ∀ q ∈ [ofFiles maker source locale], q.loader ∈ loaders := by
      intro q hq
      rw [List.mem_singleton.1 hq]
      exact hmaker
    exact (alone_eq_ok_iff hasks).1 (htransparent _ _ _ entries hmembers hloader hasks hserved)
  · intro halike run r key entries hrun hr hasks hitems
    exact alone_of_items_loadAll halike hrun hr hasks (hmiss key) hitems

/-- Loaders with one base language and one directory resolve alike. -/
theorem resolveAlike_of_layout [Platform] {loaders : Set Loader} {layout : Layout}
    (h : ∀ loader ∈ loaders, loader.layout = layout) (fs : FileSystem) :
    ResolveAlike fs loaders := by
  intro maker hmaker loader hloader source locale entries hresolve
  rw [h maker hmaker] at hresolve
  rw [h loader hloader]
  exact hresolve

/-- A loader of German resources that shares the cache of the English one. -/
def germanLoader : Loader := ⟨⟨"de".toList, "resources".toList⟩, 0⟩

/-- A load of the menu in French. -/
def frenchMenu (loader : Loader) : Request := .ofFiles loader menuSource "fr".toList

/-- A load with German as the base language gives the English texts that the loader before it has
left in the cache. -/
theorem items_shared_menu :
    (∀ loader ∈ ({englishLoader, germanLoader} : Set Loader), loader.cache = 0) ∧
    Store.empty.cache 0 = [] ∧ (frenchMenu germanLoader).Asks 0 ⟨menuSource, "fr".toList⟩ ∧
    (frenchMenu germanLoader).items menu.fileSystem
      (loadAll menu.fileSystem .empty [frenchMenu englishLoader]) =
        (firstOffer menu.fileSystem 0 ⟨menuSource, "fr".toList⟩ [frenchMenu englishLoader]).elim
          ((frenchMenu germanLoader).alone menu.fileSystem) .ok := by
  have hshared : ∀ loader ∈ ({englishLoader, germanLoader} : Set Loader), loader.cache = 0 := by
    rintro loader (rfl | rfl)
    · rfl
    · rfl
  exact ⟨hshared, rfl, ⟨rfl, rfl, rfl⟩,
    (items_shared hshared rfl menu.fileSystem).1 _ _ _ ⟨rfl, rfl, rfl⟩⟩

/-- With a cache of its own the German loader gives the German texts, and after the English loader
it gives the English ones. -/
theorem items_of_other_loader :
    (frenchMenu germanLoader).alone menu.fileSystem =
      .ok [("help".toList, some "Hilfe".toList), ("title".toList, some "Start".toList),
        ("back".toList, none)] ∧
    (frenchMenu germanLoader).items menu.fileSystem
      (loadAll menu.fileSystem .empty [frenchMenu englishLoader]) =
        .ok [("title".toList, some "Home".toList), ("back".toList, some "Back".toList)] := by
  refine ⟨?_, ?_⟩
  · cbv
  · cbv

end Request

end Phrasebook.Locale
