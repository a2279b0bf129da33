import Phrasebook.Proofs.Resources.Loading

/-!
# What a store remembers

Every mapping that a cache remembers is frozen, and no two keys share one, in one cache or in
two. Clearing a cache and writing to mappings keep that so. A load keeps all that is remembered and
the entries of all mappings that are there; if it adds anything, it is one mapping for the key that
it was asked for, with the entries that the key resolves to. Where callers put mappings into caches
themselves, all that is left of the invariant is that what is remembered is there.
-/

namespace Phrasebook.Resources.Store

variable {s t u : Store} {id : MappingId}

/-- The mapping that a cache remembers for a key. -/
abbrev held (s : Store) (cache : CacheId) (key : BundleKey) : Option MappingId :=
  (s.cache cache).get? key

/-! ## Caches and mappings after a change -/

theorem cache_put (s : Store) (cache other : CacheId) (content : Cache) :
    Store.cache { s with caches := s.caches.put cache content } other =
      if other = cache then content else s.cache other := by
  simp only [Store.cache, Dict.get?_put]
  split
  · rfl
  · rfl

theorem held_remember (s : Store) (cache other : CacheId) (key k : BundleKey)
    (id : MappingId) : (s.remember cache key id).held other k =
      if other = cache ∧ k = key then some id else s.held other k := by
  rw [held, remember, cache_put]
  by_cases hcache : other = cache
  · subst hcache
    rw [if_pos rfl, Dict.get?_put]
    simp
  · simp [hcache]

theorem held_clear (s : Store) (cache other : CacheId) (key : BundleKey) :
    (s.clear cache).held other key = if other = cache then none else s.held other key := by
  rw [held, clear, cache_put]
  split
  · rfl
  · rfl

@[simp] theorem nextId_add (s : Store) (mapping : Mapping) :
    (s.add mapping).nextId = s.nextId + 1 :=
  List.length_append

theorem held_resolvedTo (s : Store) (cache other : CacheId) (key k : BundleKey)
    (entries : Entries) : (s.resolvedTo cache key entries).held other k =
      if other = cache ∧ k = key then some s.nextId else s.held other k :=
  held_remember _ cache other key k _

/-- A key that is remembered for the first time goes to the end of its cache, and no other cache
changes. -/
theorem cache_resolvedTo {cache : CacheId} {key : BundleKey} (entries : Entries)
    (hmiss : s.held cache key = none) (other : CacheId) :
    (s.resolvedTo cache key entries).cache other =
      if other = cache then s.cache cache ++ [(key, s.nextId)] else s.cache other := by
  rw [resolvedTo, remember, cache_put]
  split
  · exact Dict.put_of_get?_eq_none hmiss s.nextId
  · rfl

@[simp] theorem nextId_resolvedTo (s : Store) (cache : CacheId) (key : BundleKey)
    (entries : Entries) : (s.resolvedTo cache key entries).nextId = s.nextId + 1 :=
  List.length_append

/-- What it takes to write to a mapping, and what that changes. -/
theorem assign?_eq_some {key : Text} {text : Option Text} (h : s.assign? id key text = some t) :
    ∃ entries, s.mappings[id]? = some ⟨entries, false⟩ ∧
      t = { s with mappings := s.mappings.set id ⟨entries.put key text, false⟩ } := by
  rw [assign?] at h
  split at h
  · cases h
  · rename_i mapping hmapping
    split at h
    · cases h
    · rename_i hfrozen
      obtain ⟨entries, frozen⟩ := mapping
      cases frozen with
      | true => exact absurd rfl hfrozen
      | false =>
          cases h
          exact ⟨entries, hmapping, rfl⟩

/-! ## The invariant of stores -/

/-- Remembered mappings are frozen and belong to one key of one cache. -/
structure IsSound (s : Store) : Prop where
  frozen : ∀ {cache key id}, s.held cache key = some id →
    ∃ entries, s.mappings[id]? = some ⟨entries, true⟩
  unshared : ∀ {cache key other k id}, s.held cache key = some id →
    s.held other k = some id → cache = other ∧ key = k

theorem IsSound.known (h : s.IsSound) {cache : CacheId} {key : BundleKey}
    (hheld : s.held cache key = some id) : id < s.nextId := by
  obtain ⟨_, hmapping⟩ := h.frozen hheld
  exact (List.getElem?_eq_some_iff.1 hmapping).1

theorem isSound_empty : IsSound empty := by
  constructor
  · intro cache key id hheld
    cases hheld
  · intro cache key other k id hheld
    cases hheld

theorem IsSound.add (h : s.IsSound) (mapping : Mapping) : (s.add mapping).IsSound := by
  constructor
  · intro cache key id hheld
    obtain ⟨entries, hmapping⟩ := h.frozen hheld
    refine ⟨entries, ?_⟩
    rw [← hmapping]
    exact List.getElem?_append_left (h.known hheld)
  · intro cache key other k id hfirst hsecond
    exact h.unshared hfirst hsecond

theorem IsSound.clear (h : s.IsSound) (cache : CacheId) : (s.clear cache).IsSound := by
  have hkept : ∀ {other key id}, (s.clear cache).held other key = some id →
      s.held other key = some id := by
    intro other key id hheld
    rw [held_clear] at hheld
    split at hheld
    · cases hheld
    · exact hheld
  constructor
  · intro other key id hheld
    exact h.frozen (hkept hheld)
  · intro first key second k id hfirst hsecond
    exact h.unshared (hkept hfirst) (hkept hsecond)

/-- A new mapping may be remembered, if it is frozen. -/
theorem IsSound.resolvedTo (h : s.IsSound) (cache : CacheId) (key : BundleKey)
    (entries : Entries) : (s.resolvedTo cache key entries).IsSound := by
  have hsound := h.add ⟨entries, true⟩
  have hfresh : ∀ {other k}, s.held other k ≠ some s.nextId := by
    intro other k hheld
    exact Nat.lt_irrefl _ (h.known hheld)
  constructor
  · intro other k id hheld
    rw [held_resolvedTo] at hheld
    split at hheld
    · cases hheld
      exact ⟨entries, List.getElem?_concat_length⟩
    · exact hsound.frozen hheld
  · intro first key₁ second key₂ id hfirst hsecond
    rw [held_resolvedTo] at hfirst hsecond
    split at hfirst
    · rename_i hnew
      cases hfirst
      split at hsecond
      · rename_i hnew'
        exact ⟨hnew.1.trans hnew'.1.symm, hnew.2.trans hnew'.2.symm⟩
      · exact absurd hsecond hfresh
    · split at hsecond
      · cases hsecond
        exact absurd hfirst hfresh
      · exact h.unshared hfirst hsecond

/-! ## Growth -/

/-- All mappings keep their entries, and all that is remembered stays so. -/
structure Grows (s t : Store) : Prop where
  nextId : s.nextId ≤ t.nextId
  entries : ∀ {id}, id < s.nextId → t.entries id = s.entries id
  held : ∀ {cache key id}, s.held cache key = some id → t.held cache key = some id

theorem Grows.refl (s : Store) : s.Grows s :=
  ⟨Nat.le_refl _, fun _ => rfl, fun hheld => hheld⟩

theorem Grows.trans (hst : s.Grows t) (htu : t.Grows u) : s.Grows u := by
  refine ⟨Nat.le_trans hst.nextId htu.nextId, ?_, ?_⟩
  · intro id hid
    rw [htu.entries (Nat.lt_of_lt_of_le hid hst.nextId), hst.entries hid]
  · intro cache key id hheld
    exact htu.held (hst.held hheld)

/-- What is not remembered later was not remembered earlier. -/
theorem Grows.held_none (h : s.Grows t) {cache : CacheId} {key : BundleKey}
    (hnone : t.held cache key = none) : s.held cache key = none := by
  cases hheld : s.held cache key with
  | none => rfl
  | some id =>
      rw [h.held hheld] at hnone
      cases hnone

theorem entries_of_append {rest : List Mapping} (hmappings : t.mappings = s.mappings ++ rest)
    (hid : id < s.nextId) : t.entries id = s.entries id := by
  rw [Store.entries, Store.entries, hmappings, List.getElem?_append_left hid]

theorem grows_add (s : Store) (mapping : Mapping) : s.Grows (s.add mapping) := by
  refine ⟨?_, ?_, ?_⟩
  · rw [nextId_add]
    exact Nat.le_succ _
  · intro id hid
    exact entries_of_append rfl hid
  · intro cache key id hheld
    exact hheld

theorem grows_resolvedTo {cache : CacheId} {key : BundleKey} (entries : Entries)
    (hmiss : s.held cache key = none) : s.Grows (s.resolvedTo cache key entries) := by
  refine ⟨?_, ?_, ?_⟩
  · rw [nextId_resolvedTo]
    exact Nat.le_succ _
  · intro id hid
    exact entries_of_append rfl hid
  · intro other k id hheld
    rw [held_resolvedTo]
    split
    · rename_i hnew
      rw [hnew.1, hnew.2, hmiss] at hheld
      cases hheld
    · exact hheld

/-- A write to a mapping leaves frozen ones alone. -/
theorem mappings_assign? {key : Text} {text : Option Text} {other : MappingId} {entries : Entries}
    (h : s.assign? id key text = some t) (hother : s.mappings[other]? = some ⟨entries, true⟩) :
    t.mappings[other]? = some ⟨entries, true⟩ := by
  obtain ⟨old, hold, rfl⟩ := assign?_eq_some h
  have hne : id ≠ other := by
    rintro rfl
    rw [hother] at hold
    cases hold
  rw [← hother]
  exact List.getElem?_set_ne hne

theorem held_assign? {key : Text} {text : Option Text} (h : s.assign? id key text = some t)
    (cache : CacheId) (k : BundleKey) : t.held cache k = s.held cache k := by
  obtain ⟨_, _, rfl⟩ := assign?_eq_some h
  rfl

theorem nextId_assign? {key : Text} {text : Option Text} (h : s.assign? id key text = some t) :
    t.nextId = s.nextId := by
  obtain ⟨_, _, rfl⟩ := assign?_eq_some h
  exact List.length_set

theorem IsSound.assign? (hsound : s.IsSound) {key : Text} {text : Option Text}
    (h : s.assign? id key text = some t) : t.IsSound := by
  constructor
  · intro cache k id hheld
    rw [held_assign? h] at hheld
    obtain ⟨entries, hmapping⟩ := hsound.frozen hheld
    exact ⟨entries, mappings_assign? h hmapping⟩
  · intro cache k other k' id hfirst hsecond
    rw [held_assign? h] at hfirst hsecond
    exact hsound.unshared hfirst hsecond

/-- A write changes no mapping that is remembered. -/
theorem entries_assign? (hsound : s.IsSound) {key : Text} {text : Option Text}
    (h : s.assign? id key text = some t) {cache : CacheId} {k : BundleKey} {other : MappingId}
    (hheld : s.held cache k = some other) : t.entries other = s.entries other := by
  obtain ⟨entries, hmapping⟩ := hsound.frozen hheld
  rw [Store.entries, Store.entries, hmapping, mappings_assign? h hmapping]

/-! ## Known mappings -/

/-- Every mapping that a cache remembers is there. Callers that put mappings of their own into
caches cannot break this, whereas they can share one between keys. -/
def KnowsHeld (s : Store) : Prop :=
  ∀ cache key id, s.held cache key = some id → id < s.nextId

theorem knowsHeld_empty : KnowsHeld empty := by
  intro cache key id hheld
  cases hheld

namespace KnowsHeld

theorem add (h : s.KnowsHeld) (mapping : Mapping) : (s.add mapping).KnowsHeld := by
  intro cache key id hheld
  rw [nextId_add]
  exact Nat.lt_succ_of_lt (h cache key id hheld)

/-- A mapping that is there may be remembered. -/
theorem remember (h : s.KnowsHeld) (hid : id < s.nextId) (cache : CacheId) (key : BundleKey) :
    (s.remember cache key id).KnowsHeld := by
  intro other k other' hheld
  rw [held_remember] at hheld
  split at hheld
  · cases hheld
    exact hid
  · exact h other k other' hheld

/-- A new mapping may be remembered. -/
theorem addHeld (h : s.KnowsHeld) (mapping : Mapping) (cache : CacheId) (key : BundleKey) :
    ((s.add mapping).remember cache key s.nextId).KnowsHeld := by
  apply (h.add mapping).remember
  rw [nextId_add]
  exact Nat.lt_succ_self _

theorem clear (h : s.KnowsHeld) (cache : CacheId) : (s.clear cache).KnowsHeld := by
  intro other key id hheld
  rw [held_clear] at hheld
  split at hheld
  · cases hheld
  · exact h other key id hheld

theorem assign? (h : s.KnowsHeld) {name : Text} {text : Option Text}
    (hassign : s.assign? id name text = some t) : t.KnowsHeld := by
  intro cache key other hheld
  rw [held_assign? hassign] at hheld
  rw [nextId_assign? hassign]
  exact h cache key other hheld

end KnowsHeld

/-! ## Loads -/

variable [Platform]

/-- A load leaves the store as it is or resolves the key that it is asked for. -/
theorem load_store_cases (s : Store) (fs : FileSystem) (loader : Loader) (bundle : Bundle)
    (locale : Text) :
    (s.load fs loader bundle locale).2 = s ∨
      ∃ entries, bundle.precomputed = none ∧
        s.held loader.cache ⟨bundle.source, locale⟩ = none ∧
        (loader.layout.resolve fs bundle.source locale).result = .ok entries ∧
        (s.load fs loader bundle locale).2 =
          s.resolvedTo loader.cache ⟨bundle.source, locale⟩ entries := by
  obtain ⟨source, precomputed⟩ := bundle
  cases precomputed with
  | some id => exact .inl rfl
  | none =>
      cases hcached : s.held loader.cache ⟨source, locale⟩ with
      | some id => exact .inl (congrArg Prod.snd (load_of_cached hcached fs))
      | none =>
          cases hresolve : (loader.layout.resolve fs source locale).result with
          | error e => exact .inl (congrArg Prod.snd (load_of_unresolved hcached hresolve))
          | ok entries =>
              exact .inr ⟨entries, rfl, rfl, rfl,
                congrArg Prod.snd (load_of_resolved hcached hresolve)⟩

end Phrasebook.Resources.Store
