import Phrasebook.Proofs.Resources.LoadedLayers
import Phrasebook.Proofs.Session.Advance

/-!
# Loads over a whole run

A session remembers what it loads. Through any run of operations a cache keeps the mapping of a key
until the cache is cleared, whatever happens to the files; the mapping is the one that the first
load of the key resolved, from the files as they were then. The invariant that carries this is the
soundness of sessions, kept by every operation, and each remembered mapping is traced back to the
operation that made it by induction on the run.

A run is a list of operations, none of which puts a mapping into a cache by hand.
-/

namespace Phrasebook.Session

open Phrasebook.Locale (Localizer Lookup Request)
open Resources

variable {s t : Session} {operation : Operation} {cache : CacheId} {key : BundleKey}
  {id : MappingId}

/-! ## One operation -/

theorem Change.nextId_le [Platform] {store : Store} (h : Change s operation store) :
    s.store.nextId ≤ store.nextId := by
  cases h with
  | loads made _ => exact (Request.grows_loadAll _ _ _).nextId
  | writes made _ hassign =>
      rw [Store.nextId_assign? hassign]
      exact (Request.grows_loadAll _ _ _).nextId
  | clears _ _ => exact Nat.le_refl _

theorem Change.isSound [Platform] {store : Store} (h : Change s operation store)
    (hs : s.store.IsSound) :
    store.IsSound := by
  cases h with
  | loads made _ => exact Request.isSound_loadAll hs _ _
  | writes made _ hassign => exact (Request.isSound_loadAll hs _ _).assign? hassign
  | clears _ _ => exact hs.clear _

/-- Every operation keeps a session sound. -/
theorem Advance.isSound [Platform] (h : s.Advance operation t) (hs : s.IsSound) : t.IsSound := by
  have hknown : ∀ {bundle}, IsKnown s.store bundle → IsKnown t.store bundle :=
    fun hbundle => hbundle.mono h.store.nextId_le
  refine ⟨h.store.isSound hs.store, ?_, ?_, ?_⟩
  · intro id hid
    rcases h.seen.known id hid with hold | hnew
    · exact Nat.lt_of_lt_of_le (hs.seen id hold) h.store.nextId_le
    · exact hnew
  · intro name bundle hfound
    rw [h.tables.bundles] at hfound
    exact hknown (hs.bundles hfound)
  · intro name accessor bundle hfound hbundle
    rcases h.tables.accessors hfound hbundle with hold | ⟨ref, href⟩
    · exact hknown (hs.accessors hold hbundle)
    · exact hknown (hs.bundle href)

/-- A cache keeps what it remembers through every operation that does not clear it. -/
theorem Change.held [Platform] {store : Store} (h : Change s operation store) (hs : s.store.IsSound)
    (hclears : ¬ s.Clears operation cache) (hheld : s.store.held cache key = some id) :
    store.held cache key = some id ∧ store.entries id = s.store.entries id := by
  have hid := hs.known hheld
  cases h with
  | loads made _ =>
      have hgrows := Request.grows_loadAll s.files.fileSystem s.store made
      exact ⟨hgrows.held hheld, hgrows.entries hid⟩
  | writes made _ hassign =>
      have hgrows := Request.grows_loadAll s.files.fileSystem s.store made
      have hloaded := hgrows.held hheld
      refine ⟨(Store.held_assign? hassign cache key).trans hloaded, ?_⟩
      rw [Store.entries_assign? (Request.isSound_loadAll hs _ _) hassign hloaded,
        hgrows.entries hid]
  | @clears name loader hname hloader =>
      have hne : cache ≠ loader.cache := by
        intro heq
        exact hclears ⟨name, loader, hname, hloader, heq.symm⟩
      rw [Store.held_clear, if_neg hne]
      exact ⟨hheld, rfl⟩

/-- What a cache remembers after an operation it remembered before, or the operation asked for it
and resolved it from the files to a new mapping. -/
theorem Change.origin [Platform] {store : Store} (h : Change s operation store)
    (hs : s.store.IsSound) (hheld : store.held cache key = some id) :
    s.store.held cache key = some id ∨
      s.store.held cache key = none ∧ s.store.nextId ≤ id ∧
        ∃ r ∈ s.requests operation, r.Asks cache key ∧
          (r.loader.layout.resolve s.files.fileSystem key.source key.locale).result =
            .ok (store.entries id) := by
  cases h with
  | loads made hmade =>
      rcases Request.held_loadAll hheld with hbefore | ⟨hnone, hnew, r, hr, hasks, hresolve⟩
      · exact .inl hbefore
      · exact .inr ⟨hnone, hnew, r, hmade r hr, hasks, hresolve⟩
  | writes made hmade hassign =>
      have hloaded := (Store.held_assign? hassign cache key).symm.trans hheld
      rcases Request.held_loadAll hloaded with hbefore | ⟨hnone, hnew, r, hr, hasks, hresolve⟩
      · exact .inl hbefore
      · rw [← Store.entries_assign? (Request.isSound_loadAll hs _ _) hassign hloaded] at hresolve
        exact .inr ⟨hnone, hnew, r, hmade r hr, hasks, hresolve⟩
  | clears _ _ =>
      rw [Store.held_clear] at hheld
      split at hheld
      · cases hheld
      · exact .inl hheld

/-- A cache remembers nothing once it is cleared. -/
theorem held_of_clears [Platform] (h : s.Clears operation cache) (key : BundleKey) :
    (s.perform operation).2.store.held cache key = none := by
  obtain ⟨name, loader, rfl, hloader, rfl⟩ := h
  have hstore : (s.perform (.cacheClear name)).2.store = s.store.clear loader.cache := by
    simp only [perform, hloader, given, answer]
  rw [hstore, Store.held_clear]
  exact if_pos rfl

/-- Loaders are the same after an operation, and so are the operations that clear a cache. -/
theorem SameTables.clears_iff (h : s.SameTables t) :
    t.Clears operation cache ↔ s.Clears operation cache := by
  have hloader : ∀ name, t.loader name = s.loader name := by
    intro name
    cases name with
    | none => exact congrArg Except.ok h.loader
    | some name => simp only [Session.loader, h.loaders]
  simp only [Clears, hloader]

/-! ## Runs -/

/-- The session after operations that are performed one after the other. -/
def after [Platform] (s : Session) : List Operation → Session
  | [] => s
  | operation :: rest => (s.perform operation).2.after rest

/-- Performing operations one after the other is a run of steps. -/
theorem runSteps_map_perform [Platform] (s : Session) (run : List Operation) :
    (s.runSteps (run.map .perform)).2 = s.after run := by
  induction run generalizing s with
  | nil => rfl
  | cons operation rest ih => exact ih _

theorem after_append [Platform] (s : Session) (first second : List Operation) :
    s.after (first ++ second) = (s.after first).after second := by
  induction first generalizing s with
  | nil => rfl
  | cons operation rest ih => exact ih _

/-- Nothing is put into a cache by hand. -/
def IsRun (run : List Operation) : Prop :=
  ∀ operation ∈ run, operation.putsByHand = false

theorem IsRun.of_append {first second : List Operation} (h : IsRun (first ++ second)) :
    IsRun first ∧ IsRun second := by
  constructor
  · intro operation hmem
    exact h operation (List.mem_append_left _ hmem)
  · intro operation hmem
    exact h operation (List.mem_append_right _ hmem)

theorem IsRun.of_cons {rest : List Operation} (h : IsRun (operation :: rest)) :
    operation.putsByHand = false ∧ IsRun rest := by
  refine ⟨h _ List.mem_cons_self, ?_⟩
  intro other hmem
  exact h other (List.mem_cons_of_mem _ hmem)

variable {run : List Operation}

/-- Every run keeps a session sound. -/
theorem IsSound.after [Platform] (hs : s.IsSound) (hrun : IsRun run) : (s.after run).IsSound := by
  induction run generalizing s with
  | nil => exact hs
  | cons operation rest ih =>
      obtain ⟨hoperation, hrest⟩ := hrun.of_cons
      exact ih ((hs.advance hoperation).isSound hs) hrest

theorem IsSound.clears_after_iff [Platform] (hs : s.IsSound) (hrun : IsRun run) :
    (s.after run).Clears operation cache ↔ s.Clears operation cache := by
  induction run generalizing s with
  | nil => exact Iff.rfl
  | cons first rest ih =>
      obtain ⟨hfirst, hrest⟩ := hrun.of_cons
      have hadvance := hs.advance hfirst
      exact (ih (hadvance.isSound hs) hrest).trans hadvance.tables.clears_iff

/-- What has been seen keeps its number. -/
theorem IsSound.seen_after [Platform] (hs : s.IsSound) (hrun : IsRun run) : s.seen <+:
    (s.after run).seen := by
  induction run generalizing s with
  | nil => exact List.prefix_rfl
  | cons operation rest ih =>
      obtain ⟨hoperation, hrest⟩ := hrun.of_cons
      have hadvance := hs.advance hoperation
      exact hadvance.seen.before.trans (ih (hadvance.isSound hs) hrest)

/-- A cache keeps what it remembers through every run that does not clear it. -/
theorem IsSound.held_after [Platform] (hs : s.IsSound) (hrun : IsRun run)
    (hclears : ∀ operation ∈ run, ¬ s.Clears operation cache)
    (hheld : s.store.held cache key = some id) :
    (s.after run).store.held cache key = some id ∧
      (s.after run).store.entries id = s.store.entries id := by
  induction run generalizing s with
  | nil => exact ⟨hheld, rfl⟩
  | cons operation rest ih =>
      obtain ⟨hoperation, hrest⟩ := hrun.of_cons
      have hadvance := hs.advance hoperation
      obtain ⟨hkept, hentries⟩ :=
        hadvance.store.held hs.store (hclears operation List.mem_cons_self) hheld
      have hclears' : ∀ other ∈ rest, ¬ (s.perform operation).2.Clears other cache := by
        intro other hother hclear
        exact hclears other (List.mem_cons_of_mem _ hother) (hadvance.tables.clears_iff.1 hclear)
      obtain ⟨hafter, hsame⟩ := ih (hadvance.isSound hs) hrest hclears' hkept
      exact ⟨hafter, hsame.trans hentries⟩

/-- A mapping that is there is never remembered for another key than before. -/
theorem IsSound.owner_after [Platform] (hs : s.IsSound) (hrun : IsRun run)
    (hid : id < s.store.nextId)
    (howner : ∀ {other k}, s.store.held other k = some id → cache = other ∧ key = k)
    {other : CacheId} {k : BundleKey} (hheld : (s.after run).store.held other k = some id) :
    cache = other ∧ key = k := by
  induction run generalizing s with
  | nil => exact howner hheld
  | cons operation rest ih =>
      obtain ⟨hoperation, hrest⟩ := hrun.of_cons
      have hadvance := hs.advance hoperation
      have hid' := Nat.lt_of_lt_of_le hid hadvance.store.nextId_le
      refine ih (hadvance.isSound hs) hrest hid' (fun hkept => ?_) hheld
      rcases hadvance.store.origin hs.store hkept with hbefore | ⟨_, hnew, _⟩
      · exact howner hbefore
      · exact absurd hid (Nat.not_lt.2 hnew)

/-- An operation of a run resolves a key that the cache does not remember, from the files as they
are then; the cache remembers the key from then on, and it is not cleared after that. -/
structure Origin [Platform] (s : Session) (run : List Operation) (cache : CacheId) (key : BundleKey)
    (entries : Entries) (before : List Operation) (maker : Operation) (between : List Operation)
    (r : Request) : Prop where
  run : run = before ++ maker :: between
  kept : ∀ operation ∈ between, ¬ s.Clears operation cache
  missed : (s.after before).store.held cache key = none
  request : r ∈ (s.after before).requests maker
  asks : r.Asks cache key
  resolved : (r.loader.layout.resolve (s.after before).files.fileSystem key.source
    key.locale).result = .ok entries
  made : ∃ id, ((s.after before).perform maker).2.store.held cache key = some id

/-- What a cache remembers after a run it remembered before it, or it has an origin in the run. -/
theorem IsSound.origin_after [Platform] (hs : s.IsSound) (hrun : IsRun run)
    (hheld : (s.after run).store.held cache key = some id) :
    (s.store.held cache key = some id ∧ ∀ operation ∈ run, ¬ s.Clears operation cache) ∨
      ∃ before maker between r,
        s.Origin run cache key ((s.after run).store.entries id) before maker between r := by
  induction run generalizing s with
  | nil =>
      refine .inl ⟨hheld, ?_⟩
      intro operation hmem
      cases hmem
  | cons operation rest ih =>
      obtain ⟨hoperation, hrest⟩ := hrun.of_cons
      have hadvance := hs.advance hoperation
      have ht := hadvance.isSound hs
      -- The mapping was there after the first operation, or the rest of the run made it.
      rcases ih ht hrest hheld with
        ⟨hmade, hkept⟩ | ⟨before, maker, between, r, horigin⟩
      · have hkept' : ∀ other ∈ rest, ¬ s.Clears other cache := by
          intro other hother hclear
          exact hkept other hother (hadvance.tables.clears_iff.2 hclear)
        rcases hadvance.store.origin hs.store hmade with
          hbefore | ⟨hnone, _, r, hr, hasks, hresolve⟩
        · refine .inl ⟨hbefore, ?_⟩
          intro other hother hclear
          rcases List.mem_cons.1 hother with rfl | hmem
          · rw [held_of_clears hclear] at hmade
            cases hmade
          · exact hkept' other hmem hclear
        · rw [← (ht.held_after hrest hkept hmade).2] at hresolve
          exact .inr ⟨[], operation, rest, r, rfl, hkept', hnone, hr, hasks, hresolve, id, hmade⟩
      · refine .inr ⟨operation :: before, maker, between, r, ?_, ?_, horigin.missed,
          horigin.request, horigin.asks, horigin.resolved, horigin.made⟩
        · rw [horigin.run]
          rfl
        · intro other hother hclear
          exact horigin.kept other hother (hadvance.tables.clears_iff.2 hclear)

/-! ## The start -/

theorem IsSound.put_bundle (h : s.IsSound) {store : Store} (hstore : store.IsSound)
    (hgrows : s.store.nextId ≤ store.nextId) (name : Text) {bundle : Bundle}
    (hbundle : IsKnown store bundle) :
    IsSound { s with store, bundles := s.bundles.put name bundle } := by
  refine ⟨hstore, ?_, ?_, ?_⟩
  · intro id hid
    exact Nat.lt_of_lt_of_le (h.seen id hid) hgrows
  · intro other found hfound
    change (s.bundles.put name bundle).get? other = some found at hfound
    rw [Dict.get?_put] at hfound
    split at hfound
    · cases hfound
      exact hbundle
    · exact (h.bundles hfound).mono hgrows
  · intro other accessor found hfound hother
    exact (h.accessors hfound hother).mono hgrows

theorem IsSound.addBundles (h : s.IsSound) (plans : List (Text × BundlePlan)) :
    (s.addBundles plans).IsSound := by
  induction plans generalizing s with
  | nil => exact h
  | cons entry rest ih =>
      obtain ⟨name, source, items⟩ := entry
      cases items with
      | none =>
          refine ih (h.put_bundle h.store (Nat.le_refl _) name ?_)
          rintro id ⟨⟩
      | some items =>
          refine ih (h.put_bundle (h.store.add _) (Store.grows_add _ _).nextId name ?_)
          rintro id ⟨⟩
          rw [Store.nextId_add]
          exact Nat.lt_succ_self _

theorem held_addBundles (s : Session) (plans : List (Text × BundlePlan)) :
    (s.addBundles plans).store.held cache key = s.store.held cache key := by
  induction plans generalizing s with
  | nil => rfl
  | cons entry rest ih =>
      obtain ⟨name, source, items⟩ := entry
      cases items with
      | none => exact ih _
      | some items => exact ih _

theorem isSound_start (plan : Plan) : (start plan).IsSound := by
  refine IsSound.addBundles ⟨Store.isSound_empty, ?_, ?_, ?_⟩ plan.bundles
  · intro id hid
    cases hid
  · intro name bundle hfound
    cases hfound
  · intro name accessor bundle hfound
    cases hfound

theorem held_start (plan : Plan) : (start plan).store.held cache key = none :=
  held_addBundles _ plan.bundles

/-! ## Loads and calls of accessors -/

variable {r : Request}

theorem perform_of_found [Platform] (hr : s.request? operation = some r)
    (hfound : r.load s.files.fileSystem s.store = (.of (.ok id), s.store)) :
    s.perform operation =
      (.of (.ok (.view ⟨(noted s.seen id).idxOf id, s.store.entries id⟩)),
        { s with seen := noted s.seen id }) := by
  have hload : (r.load s.files.fileSystem s.store).1.result = .ok id := by
    rw [hfound]
    rfl
  rw [perform_of_request hr, load_of_ok hload, hfound]
  rfl

/-- A key that the cache does not remember is resolved from the files, to a mapping that has not
been seen before. -/
theorem IsSound.perform_of_missed [Platform] (hs : s.IsSound) (hr : s.request? operation = some r)
    (hasks : r.Asks cache key) (hmiss : s.store.held cache key = none) :
    (s.perform operation).1 =
      ⟨((r.loader.layout.resolve s.files.fileSystem key.source key.locale).result.mapError
          .load).map fun entries => .view ⟨s.seen.length, entries⟩,
        Store.resolvingJournal s.files.fileSystem r.loader.layout key.source key.locale⟩ := by
  rw [perform_of_request hr]
  cases hresolve : (r.loader.layout.resolve s.files.fileSystem key.source key.locale).result with
  | error e =>
      have hload := Request.load_of_unresolved hasks hmiss hresolve
      rw [load_of_error (congrArg (·.1.result) hload), hload]
      rfl
  | ok entries =>
      have hload := Request.load_of_resolved hasks hmiss hresolve
      have hnew : s.store.nextId ∉ s.seen := by
        intro hmem
        exact Nat.lt_irrefl _ (hs.seen _ hmem)
      rw [load_of_ok (congrArg (·.1.result) hload), hload, noted_of_not_mem hnew,
        List.idxOf_append_of_notMem hnew, List.idxOf_cons_self]
      simp only [Store.entries_resolvedTo_nextId]
      rfl

/-! ## Memoisation -/

/-- A load or the call of an accessor asks a cache for a key and shows a mapping. -/
def Shows [Platform] (s : Session) (operation : Operation) (cache : CacheId) (key : BundleKey)
    (v : View) : Prop :=
  ∃ r, s.request? operation = some r ∧ r.Asks cache key ∧
    (s.perform operation).1.result = .ok (.view v)

/-- An operation of a run has shown a mapping for a key of a cache, and the cache is not cleared
after it. -/
def HasShown [Platform] (s : Session) (run : List Operation) (cache : CacheId) (key : BundleKey)
    (v : View) : Prop :=
  ∃ before first between, run = before ++ first :: between ∧
    (s.after before).Shows first cache key v ∧
    ∀ operation ∈ between, ¬ s.Clears operation cache

/-- Since the start of a run, or since it cleared a cache, no operation has asked the cache for a
key that could be resolved then. -/
def IsUnresolved [Platform] (s : Session) (run : List Operation) (cache : CacheId)
    (key : BundleKey) : Prop :=
  ∃ before between, run = before ++ between ∧
    (before = [] ∨ ∃ earlier clear, before = earlier ++ [clear] ∧ s.Clears clear cache) ∧
    ∀ middle operation rest, between = middle ++ operation :: rest →
      ∀ r ∈ (s.after (before ++ middle)).requests operation, r.Asks cache key →
        ∀ entries, (r.loader.layout.resolve (s.after (before ++ middle)).files.fileSystem key.source
          key.locale).result ≠ .ok entries

/-- A load or the call of an accessor may follow a run. -/
theorem IsRun.concat (hrun : IsRun run) (hr : s.request? operation = some r) :
    IsRun (run ++ [operation]) := by
  intro other hother
  rcases List.mem_append.1 hother with hmem | hmem
  · exact hrun other hmem
  · cases List.mem_singleton.1 hmem
    cases operation with
    | cachePut name source locale items => cases hr
    | _ => rfl

/-- A key for which a mapping is shown is remembered from then on. -/
theorem Shows.exists_held [Platform] {v : View} (h : s.Shows operation cache key v) :
    ∃ id, (s.perform operation).2.store.held cache key = some id ∧
      id ∈ (s.perform operation).2.seen ∧
      v = ⟨(s.perform operation).2.seen.idxOf id, (s.perform operation).2.store.entries id⟩ := by
  obtain ⟨r, hr, hasks, hview⟩ := h
  rw [perform_of_request hr] at hview ⊢
  cases hload : (r.load s.files.fileSystem s.store).1.result with
  | error e =>
      rw [load_of_error hload] at hview
      cases hview
  | ok id =>
      rw [load_of_ok hload] at hview ⊢
      cases hview
      refine ⟨id, ?_, mem_noted_self _ _, rfl⟩
      rcases r.load_eq_ok_cases hload with ⟨hprecomputed, _⟩ | ⟨k, hasks', hheld⟩
      · rw [hasks.bundle] at hprecomputed
        cases hprecomputed
      · rw [hasks.key_eq hasks', ← hasks.cache]
        exact hheld

/-- What has been shown is remembered, under the same number and with the same entries. -/
theorem IsSound.held_of_hasShown [Platform] (hs : s.IsSound) (hrun : IsRun run) {v : View}
    (h : s.HasShown run cache key v) :
    ∃ id, (s.after run).store.held cache key = some id ∧
      v = ⟨(noted (s.after run).seen id).idxOf id, (s.after run).store.entries id⟩ := by
  obtain ⟨before, first, between, rfl, hshows, hkept⟩ := h
  obtain ⟨hbefore, hrest⟩ := hrun.of_append
  obtain ⟨hfirst, hbetween⟩ := hrest.of_cons
  have ht := hs.after hbefore
  have hadvance := ht.advance hfirst
  have hu := hadvance.isSound ht
  obtain ⟨id, hheld, hseen, rfl⟩ := hshows.exists_held
  have hkept' : ∀ operation ∈ between,
      ¬ ((s.after before).perform first).2.Clears operation cache := by
    intro operation hmem hclear
    apply hkept operation hmem
    exact (hs.clears_after_iff hbefore).1 (hadvance.tables.clears_iff.1 hclear)
  obtain ⟨hafter, hentries⟩ := hu.held_after hbetween hkept' hheld
  have hbegins := hu.seen_after hbetween
  rw [after_append]
  refine ⟨id, hafter, ?_⟩
  rw [Session.after, noted_of_mem (hbegins.subset hseen), hbegins.idxOf_eq_of_mem hseen, hentries]

/-- What no operation has resolved is not remembered. -/
theorem IsSound.held_of_isUnresolved [Platform] (hs : s.IsSound) (hrun : IsRun run)
    (hstart : s.store.held cache key = none) (h : s.IsUnresolved run cache key) :
    (s.after run).store.held cache key = none := by
  obtain ⟨before, between, rfl, hbefore, hunresolved⟩ := h
  obtain ⟨hrunBefore, hrunBetween⟩ := hrun.of_append
  have hnone : (s.after before).store.held cache key = none := by
    rcases hbefore with rfl | ⟨earlier, clear, rfl, hclear⟩
    · exact hstart
    · rw [after_append]
      exact held_of_clears ((hs.clears_after_iff hrunBefore.of_append.1).2 hclear) key
  cases hheld : (s.after (before ++ between)).store.held cache key with
  | none => rfl
  | some id =>
      rw [after_append] at hheld
      rcases (hs.after hrunBefore).origin_after hrunBetween hheld with
        ⟨hold, _⟩ | ⟨middle, maker, rest, r, horigin⟩
      · rw [hold] at hnone
        cases hnone
      · have hr := horigin.request
        have hresolve := horigin.resolved
        rw [← after_append] at hr hresolve
        exact absurd hresolve (hunresolved middle maker rest horigin.run r hr horigin.asks _)

/-- What is shown has an origin in the run that ends with showing it. -/
theorem IsSound.exists_origin [Platform] (hs : s.IsSound) (hrun : IsRun run)
    (hstart : s.store.held cache key = none) {v : View}
    (h : (s.after run).Shows operation cache key v) :
    ∃ before maker between r,
      s.Origin (run ++ [operation]) cache key v.items before maker between r := by
  obtain ⟨id, hheld, _, rfl⟩ := h.exists_held
  have hlast : s.after (run ++ [operation]) = ((s.after run).perform operation).2 :=
    after_append s run [operation]
  rw [← hlast] at hheld ⊢
  rcases hs.origin_after (hrun.concat h.choose_spec.1) hheld with ⟨hold, _⟩ | horigin
  · rw [hstart] at hold
    cases hold
  · exact horigin

/-- A number is never shown for two keys, of one cache or of two. -/
theorem IsSound.eq_of_shows [Platform] (hs : s.IsSound) {before between : List Operation}
    {first : Operation} (hrun : IsRun (before ++ first :: between)) {v w : View}
    {other : CacheId} {k : BundleKey} (hv : (s.after before).Shows first cache key v)
    (hw : (s.after (before ++ first :: between)).Shows operation other k w)
    (hnumber : v.number = w.number) : cache = other ∧ key = k := by
  obtain ⟨hbefore, hrest⟩ := hrun.of_append
  obtain ⟨hfirst, hbetween⟩ := hrest.of_cons
  have ht := hs.after hbefore
  have hu := (ht.advance hfirst).isSound ht
  have hlast : IsRun (between ++ [operation]) := hbetween.concat hw.choose_spec.1
  -- Numbers are places in what has been seen last, so equal numbers are of one mapping.
  obtain ⟨id, hheld, hseen, rfl⟩ := hv.exists_held
  obtain ⟨id', hheld', _, rfl⟩ := hw.exists_held
  have hafter : ((s.after (before ++ first :: between)).perform operation).2 =
      ((s.after before).perform first).2.after (between ++ [operation]) := by
    rw [after_append, Session.after, after_append]
    rfl
  rw [hafter] at hheld' hnumber
  have hbegins := hu.seen_after hlast
  have hid : id = id' := by
    refine (List.idxOf_inj (hbegins.subset hseen)).1 ?_
    exact (hbegins.idxOf_eq_of_mem hseen).symm.trans hnumber
  subst hid
  exact hu.owner_after hlast (hu.store.known hheld)
    (fun hshared => hu.store.unshared hheld hshared) hheld'

/-- Loads are memoised over every run. A bundle with a mapping of its own shows that mapping and
does nothing else. A key of other bundles for which a mapping has been shown is answered with the
same view until the cache is cleared, without a question to the file system; a key that has not
been resolved since then is resolved from the files as they are; and every answer is what the first
load of the key since then resolved from the files of its time. No number is shown for two keys,
of one cache or of two. -/
theorem loads_memoised [Platform] (plan : Plan) (hrun : IsRun run)
    (hr : ((start plan).after run).request? operation = some r) :
    let s := (start plan).after run
    (∀ id, r.bundle.precomputed = some id →
      s.perform operation =
        (.of (.ok (.view ⟨(noted s.seen id).idxOf id, s.store.entries id⟩)),
          { s with seen := noted s.seen id })) ∧
    ∀ cache key, r.Asks cache key →
      (∀ v, (start plan).HasShown run cache key v →
        (s.perform operation).1 = .of (.ok (.view v))) ∧
      ((start plan).IsUnresolved run cache key →
        (s.perform operation).1 =
          ⟨((r.loader.layout.resolve s.files.fileSystem key.source key.locale).result.mapError
              .load).map fun entries => .view ⟨s.seen.length, entries⟩,
            Store.resolvingJournal s.files.fileSystem r.loader.layout key.source key.locale⟩) ∧
      ∀ v, (s.perform operation).1.result = .ok (.view v) →
        (∃ before maker between made, (start plan).Origin (run ++ [operation]) cache key v.items
          before maker between made) ∧
        ∀ before first between other k w, run = before ++ first :: between →
          ((start plan).after before).Shows first other k w → w.number = v.number →
          other = cache ∧ k = key := by
  intro s
  have hstart := isSound_start plan
  have hs : s.IsSound := hstart.after hrun
  refine ⟨?_, ?_⟩
  · intro id hid
    apply perform_of_found hr
    obtain ⟨loader, ⟨source, precomputed⟩, locale⟩ := r
    cases hid
    exact Request.load_of_precomputed _ loader source id locale _
  intro cache key hasks
  refine ⟨?_, ?_, ?_⟩
  · intro v hv
    obtain ⟨id, hheld, rfl⟩ := hstart.held_of_hasShown hrun hv
    rw [perform_of_found hr (Request.load_of_held hasks hheld _)]
  · intro hunresolved
    have hmiss := hstart.held_of_isUnresolved hrun (held_start plan) hunresolved
    exact hs.perform_of_missed hr hasks hmiss
  · intro v hv
    have hshows : s.Shows operation cache key v := ⟨r, hr, hasks, hv⟩
    constructor
    · exact hstart.exists_origin hrun (held_start plan) hshows
    · rintro before first between other k w rfl hw hnumber
      exact hstart.eq_of_shows hrun hw hshows hnumber

/-- A session over the files of the menu. -/
def menuPlan : Plan where
  files := .flat menu
  settings := .default
  loaders := []
  defaultLocale := none
  bundles := []

/-- The English file of the menu is deleted after a load, and an accessor still shows its texts. -/
theorem loads_memoised_menu :
    let name := "menu".toList
    let german := Value.text "de".toList
    let run : List Operation := [
      .load none (.source menuSource) german,
      .delete "/app/resources/menu-en.json".toList,
      .keepAccessor name none (.source menuSource) (.fixed german)]
    let s := (start menuPlan).after run
    IsRun run ∧
      s.request? (.call name) = some ⟨englishLoader, ⟨menuSource, none⟩, german⟩ ∧
      (s.perform (.call name)).1 = .of (.ok (.view ⟨0, [("title".toList, some "Start".toList),
        ("back".toList, none), ("help".toList, some "Hilfe".toList)]⟩)) := by
  intro name german run s
  have hrun : IsRun run := by
    simp [IsRun, run, Operation.putsByHand]
  have hr : s.request? (.call name) = some ⟨englishLoader, ⟨menuSource, none⟩, german⟩ := by
    cbv
  refine ⟨hrun, hr, ?_⟩
  refine ((loads_memoised menuPlan hrun hr).2 0 ⟨menuSource, "de".toList⟩ ⟨rfl, rfl, rfl⟩).1 _ ?_
  refine ⟨[], _, _, rfl, ⟨_, rfl, ⟨rfl, rfl, rfl⟩, ?_⟩, ?_⟩
  · cbv
  · rintro operation hoperation ⟨other, loader, rfl, _⟩
    simp at hoperation

end Phrasebook.Session
