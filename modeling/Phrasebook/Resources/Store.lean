import Phrasebook.Resources.Layer

/-!
# The store of resolved resources

Resolved resources are mappings with an identity: a mapping that a load has made is frozen,
one that a caller supplied can be changed. A cache remembers which mapping was made for a
source and a locale; loaders may share a cache. A load asks the cache first, and only a load
that succeeds adds to it.
-/

namespace Phrasebook.Resources

/-- The identity of a mapping. -/
abbrev MappingId := Nat

/-- The identity of a cache. -/
abbrev CacheId := Nat

/-- Entries that callers hold by identity. -/
structure Mapping where
  entries : Entries
  /-- Whether the entries can no longer be changed. -/
  frozen : Bool

/-- What a cache remembers a mapping by. -/
structure BundleKey where
  source : Text
  locale : Text
deriving DecidableEq

/-- The mappings that were made for sources and locales. -/
abbrev Cache := Dict BundleKey MappingId

/-- All mappings, and the caches over them. -/
structure Store where
  mappings : List Mapping
  caches : Dict CacheId Cache

/-- A bundle of resources: the source that it belongs to, and the mapping that stands in for
its files if there is one. -/
structure Bundle where
  source : Text
  precomputed : Option MappingId

/-- A loader: how it lays out files, and which cache it uses. -/
structure Loader where
  layout : Layout
  cache : CacheId

namespace Store

/-- The store without mappings. -/
def empty : Store := ⟨[], []⟩

/-- The content of a cache. -/
def cache (s : Store) (id : CacheId) : Cache :=
  (s.caches.get? id).getD []

/-- The entries of a mapping. -/
def entries (s : Store) (id : MappingId) : Entries :=
  (s.mappings[id]?.map Mapping.entries).getD []

/-- The identity that the next mapping gets. -/
def nextId (s : Store) : MappingId :=
  s.mappings.length

/-- Add a mapping. -/
def add (s : Store) (mapping : Mapping) : Store :=
  { s with mappings := s.mappings ++ [mapping] }

/-- Remember a mapping in a cache. -/
def remember (s : Store) (cache : CacheId) (key : BundleKey) (id : MappingId) : Store :=
  { s with caches := s.caches.put cache ((s.cache cache).put key id) }

/-- Forget everything that a cache remembers. -/
def clear (s : Store) (cache : CacheId) : Store :=
  { s with caches := s.caches.put cache [] }

/-- Give a key of a mapping a text, unless the mapping is frozen. -/
def assign? (s : Store) (id : MappingId) (key : Text) (text : Option Text) : Option Store :=
  match s.mappings[id]? with
  | none => none
  | some mapping =>
    if mapping.frozen then none
    else
      let changed := { mapping with entries := mapping.entries.put key text }
      some { s with mappings := s.mappings.set id changed }

variable [Platform]

/-- The mapping of a bundle for a locale. -/
def load (s : Store) (fs : FileSystem) (loader : Loader) (bundle : Bundle) (locale : Text) :
    Traced LoadError MappingId × Store :=
  match bundle.precomputed with
  | some id => (pure id, s)
  | none =>
    let key : BundleKey := ⟨bundle.source, locale⟩
    match (s.cache loader.cache).get? key with
    | some id => (pure id, s)
    | none =>
      let resolved : Traced LoadError Entries := do
        .log (.resolving bundle.source locale)
        loader.layout.resolve fs bundle.source locale
      match resolved.result with
      | .error e => (⟨.error e, resolved.journal⟩, s)
      | .ok entries =>
        let id := s.nextId
        (⟨.ok id, resolved.journal⟩, (s.add ⟨entries, true⟩).remember loader.cache key id)

theorem load_of_cached {s : Store} {loader : Loader} {source locale : Text} {id : MappingId}
    (h : (s.cache loader.cache).get? ⟨source, locale⟩ = some id) (fs : FileSystem) :
    s.load fs loader ⟨source, none⟩ locale = (pure id, s) := by
  simp [load, h]

end Store

end Phrasebook.Resources
