import Phrasebook.Proofs.Resources.Layers

/-!
# What a load does

A load has three outcomes: the mapping that stands in for the files of its bundle, the mapping
that the cache remembers, or a new one that is resolved from the files. Only the last one asks
the file system and only it changes the store, and that only if resolving succeeds. The laws here
say so in full, so that later proofs need not open a load.
-/

namespace Phrasebook.Resources

namespace Store

variable [Platform] {s : Store} {fs : FileSystem} {loader : Loader} {source locale : Text}

/-- The store after a load has resolved entries for a key. -/
def resolvedTo (s : Store) (cache : CacheId) (key : BundleKey) (entries : Entries) : Store :=
  (s.add ⟨entries, true⟩).remember cache key s.nextId

/-- The journal of a load that resolves from the files. -/
def resolvingJournal (fs : FileSystem) (l : Layout) (source locale : Text) : Journal :=
  ⟨[], [.resolving source locale]⟩ ++ (l.resolve fs source locale).journal

theorem load_of_resolved {entries : Entries}
    (hmiss : (s.cache loader.cache).get? ⟨source, locale⟩ = none)
    (h : (loader.layout.resolve fs source locale).result = .ok entries) :
    s.load fs loader ⟨source, none⟩ locale =
      (⟨.ok s.nextId, resolvingJournal fs loader.layout source locale⟩,
        s.resolvedTo loader.cache ⟨source, locale⟩ entries) := by
  have hbind : (do Traced.log (.resolving source locale)
                   loader.layout.resolve fs source locale : Traced LoadError Entries) =
      ⟨.ok entries, resolvingJournal fs loader.layout source locale⟩ := by
    rw [← h]
    rfl
  simp only [load, hmiss, hbind]
  rfl

theorem load_of_unresolved {e : LoadError}
    (hmiss : (s.cache loader.cache).get? ⟨source, locale⟩ = none)
    (h : (loader.layout.resolve fs source locale).result = .error e) :
    s.load fs loader ⟨source, none⟩ locale =
      (⟨.error e, resolvingJournal fs loader.layout source locale⟩, s) := by
  have hbind : (do Traced.log (.resolving source locale)
                   loader.layout.resolve fs source locale : Traced LoadError Entries) =
      ⟨.error e, resolvingJournal fs loader.layout source locale⟩ := by
    rw [← h]
    rfl
  simp only [load, hmiss, hbind]

omit [Platform] in
@[simp] theorem entries_resolvedTo_nextId (s : Store) (cache : CacheId) (key : BundleKey)
    (entries : Entries) : (s.resolvedTo cache key entries).entries s.nextId = entries := by
  change (((s.mappings ++ [⟨entries, true⟩])[s.mappings.length]?).map Mapping.entries).getD [] = _
  rw [List.getElem?_concat_length]
  rfl

/-- A load that misses the cache succeeds exactly if its locale can be resolved, and then its
mapping has what was resolved. -/
theorem load_eq_ok_iff_of_missed {id : MappingId}
    (hmiss : (s.cache loader.cache).get? ⟨source, locale⟩ = none) :
    (s.load fs loader ⟨source, none⟩ locale).1.result = .ok id ↔
      id = s.nextId ∧ ∃ entries, (loader.layout.resolve fs source locale).result = .ok entries ∧
        (s.load fs loader ⟨source, none⟩ locale).2 =
          s.resolvedTo loader.cache ⟨source, locale⟩ entries := by
  cases h : (loader.layout.resolve fs source locale).result with
  | error e => simp [load_of_unresolved hmiss h]
  | ok entries => simp [load_of_resolved hmiss h, eq_comm]

/-- What a load that misses the cache asks and gives is what resolving asks and gives. -/
theorem load_of_missed (fs : FileSystem)
    (hmiss : (s.cache loader.cache).get? ⟨source, locale⟩ = none) :
    (s.load fs loader ⟨source, none⟩ locale).1.journal.calls =
        (loader.layout.resolve fs source locale).journal.calls ∧
      (s.load fs loader ⟨source, none⟩ locale).1.result.map
          (s.load fs loader ⟨source, none⟩ locale).2.entries =
        (loader.layout.resolve fs source locale).result := by
  cases hresolve : (loader.layout.resolve fs source locale).result with
  | error e =>
      rw [load_of_unresolved hmiss hresolve]
      exact ⟨rfl, rfl⟩
  | ok entries =>
      rw [load_of_resolved hmiss hresolve]
      exact ⟨rfl, congrArg Except.ok (entries_resolvedTo_nextId s _ _ entries)⟩

/-- What a cache remembers for a source and a locale, if anything, is what they now resolve to. -/
def IsCurrent (s : Store) (fs : FileSystem) (loader : Loader) (source locale : Text) : Prop :=
  ∀ id, (s.cache loader.cache).get? ⟨source, locale⟩ = some id →
    (loader.layout.resolve fs source locale).result = .ok (s.entries id)

/-- A load gives what its locale resolves to, from the files or from a cache that is current. -/
theorem resolve_of_load {id : MappingId} (hcurrent : s.IsCurrent fs loader source locale)
    (hload : (s.load fs loader ⟨source, none⟩ locale).1.result = .ok id) :
    (loader.layout.resolve fs source locale).result =
      .ok ((s.load fs loader ⟨source, none⟩ locale).2.entries id) := by
  cases hcached : (s.cache loader.cache).get? ⟨source, locale⟩ with
  | none =>
      obtain ⟨rfl, entries, hresolve, hstore⟩ := (load_eq_ok_iff_of_missed hcached).1 hload
      rw [hstore, entries_resolvedTo_nextId]
      exact hresolve
  | some cached =>
      rw [load_of_cached hcached] at hload ⊢
      cases hload
      exact hcurrent _ hcached

end Store

end Phrasebook.Resources
