import Phrasebook.Proofs.Resources.DistinctKeys
import Phrasebook.Proofs.Session.Advance

/-!
# Properties of the store that sessions keep

Whatever a session is asked to do, sound or not, it does to its store no more than a few things: it
makes requests, writes to mappings, clears caches, and adds mappings that callers supply, which
caches may remember. A property that is kept by each of these is kept by every step and holds after
every run of them.

That the keys of a mapping are distinct is such a property, and so is that what is remembered is
there, so both hold of every store that a session can come to.
-/

namespace Phrasebook

open Resources

/-- A property of stores is kept by all that a session does to its store. -/
structure Session.IsKept [Platform] (P : Store → Prop) : Prop where
  load : ∀ {s}, P s → ∀ (r : Locale.Request) (fs : FileSystem), P (r.load fs s).2
  assign : ∀ {s t id key text}, P s → s.assign? id key text = some t → P t
  clear : ∀ {s}, P s → ∀ cache, P (s.clear cache)
  add : ∀ {s}, P s → ∀ items, P (s.add ⟨Dict.ofPairs items, false⟩)
  addHeld : ∀ {s}, P s → ∀ items cache key,
    P ((s.add ⟨Dict.ofPairs items, false⟩).remember cache key s.nextId)

namespace Session.IsKept

open Phrasebook.Locale (Localizer Lookup Request)

variable {P : Store → Prop} {s : Session}

theorem loadAll [Platform] (h : IsKept P) {store : Store} (hstore : P store) (fs : FileSystem)
    (requests : List Request) : P (Request.loadAll fs store requests) := by
  induction requests generalizing store with
  | nil => exact hstore
  | cons r rest ih => exact ih (h.load hstore r fs)

/-! ## Ways of building an operation -/

theorem given {α : Type} {x : Except Error α} {f : α → Effect} (hs : P s.store)
    (hgo : ∀ a, P (f a).2.store) : P (Session.given x s f).2.store := by
  cases x with
  | error e => exact hs
  | ok a => exact hgo a

theorem withStore [Platform] (h : IsKept P) (hs : P s.store) {α : Type} {x : Lookup α}
    {requests : List Request} (hx : x.Makes s.files.fileSystem requests)
    {f : α → Session → Answer × Session} (hf : ∀ a u, (f a u).2.store = u.store) :
    P (s.withStore x f).2.store := by
  obtain ⟨made, -, hstore⟩ := hx s.store
  have hmade := h.loadAll hs s.files.fileSystem made
  rw [← hstore] at hmade
  rw [Session.withStore]
  split
  · rename_i heq
    rwa [heq] at hmade
  · rename_i a _ store heq
    rw [heq] at hmade
    exact (hf a { s with store }).symm ▸ hmade

theorem view (hs : P s.store) (id : MappingId) : P (Session.view id s).2.store := by
  rw [view_eq]
  exact hs

theorem sessionLoad [Platform] (h : IsKept P) (hs : P s.store) (loader : Loader) (bundle : Bundle)
    (locale : Value) : P (s.load loader bundle locale).2.store := by
  have hmakes : (Lookup.load s.files.fileSystem loader bundle locale).Makes s.files.fileSystem
      [⟨loader, bundle, locale⟩] := Lookup.Makes.load (List.mem_singleton_self _)
  refine h.withStore hs hmakes ?_
  intro id t
  rw [view_eq]

theorem assignItem [Platform] (h : IsKept P) (hs : P s.store) (loader : Loader) (bundle : Bundle)
    (locale : Value) (key : Text) (text : Option Text) :
    P (s.assignItem loader bundle locale key text).2.store := by
  have hload := h.load hs ⟨loader, bundle, locale⟩ s.files.fileSystem
  rw [s.assignItem_eq ⟨loader, bundle, locale⟩]
  dsimp only
  split
  · exact hload
  · split
    · exact hload
    · rename_i hassign
      exact h.assign hload hassign

theorem cachePut [Platform] (h : IsKept P) (hs : P s.store) (loader : Loader) (key : BundleKey)
    (items : List (Text × Option Text)) : P (s.cachePut loader key items).2.store :=
  view (h.addHeld hs items loader.cache key) _

theorem format [Platform] (h : IsKept P) (hs : P s.store) (locale : Value) (source : Source)
    (args : List Value) : P (s.format locale source args).2.store := by
  cases source with
  | template text =>
      apply given hs
      intro text
      exact hs
  | bundle ref =>
      apply given hs
      intro bundle
      have hmember : s.localizer.request s.context? bundle locale ∈
          [s.localizer.request s.context? bundle locale] := List.mem_singleton_self _
      exact h.withStore hs (s.localizer.formatLocale_makes _ _ bundle hmember args) fun _ _ => rfl

/-! ## Operations and runs -/

/-- A property that is kept by all that a session does to its store is kept by every operation. -/
theorem perform [Platform] (h : IsKept P) (hs : P s.store) (operation : Operation) :
    P (s.perform operation).2.store := by
  cases operation with
  | write | delete | makeDirectory | setVariable | hookCalls => exact hs
  | keepAccessor | keepResources | bind | reset | assign | setHook | switch =>
      rw [(s.control _).store_eq rfl]
      exact hs
  | load name ref locale =>
      exact given hs fun loader => given hs fun bundle => h.sessionLoad hs loader bundle locale
  | call name =>
      simp only [Session.perform]
      split
      · exact hs
      · exact given hs fun locale => given hs fun bundle => h.sessionLoad hs _ bundle locale
  | assignItem name ref locale key text =>
      exact given hs fun loader => given hs fun bundle =>
        h.assignItem hs loader bundle locale key text
  | cacheSize name => exact given hs fun _ => hs
  | cacheClear name => exact given hs fun loader => h.clear hs loader.cache
  | cacheHas name source locale => exact given hs fun _ => hs
  | cacheGet name source locale =>
      apply given hs
      intro loader
      split
      · exact hs
      · exact view hs _
  | cachePut name source locale items =>
      exact given hs fun loader => h.cachePut hs loader ⟨source, locale⟩ items
  | context =>
      simp only [Session.perform]
      split
      · exact hs
      · exact hs
  | state => exact given hs fun _ => hs
  | format source args => exact h.format hs .null source args
  | formatLocale locale source args => exact h.format hs locale source args
  | formatAll ref key =>
      exact given hs fun bundle =>
        h.withStore hs (s.localizer.formatAll_makes _ _ bundle key) fun _ _ => rfl
  | payload source accept =>
      exact h.withStore hs (s.localizer.payload_makes _ _ source accept) fun _ _ => rfl

mutual

theorem runStep [Platform] (h : IsKept P) (s : Session) (hs : P s.store) :
    ∀ step : Step, P (s.runStep step).2.store
  | .perform operation => h.perform hs operation
  | .scope target steps _ =>
    runSteps h { s with contexts := s.contexts.bind target } hs steps

/-- A property that is kept by all that a session does to its store is kept by every run of
steps. -/
theorem runSteps [Platform] (h : IsKept P) (s : Session) (hs : P s.store) :
    ∀ steps : List Step, P (s.runSteps steps).2.store
  | [] => hs
  | step :: rest => runSteps h _ (runStep h s hs step) rest

end

/-- A property of the empty store that is kept holds whenever a session starts. -/
theorem start [Platform] (h : IsKept P) (hempty : P .empty) (plan : Session.Plan) :
    P (Session.start plan).store := by
  have hadd : ∀ (plans : List (Text × Session.BundlePlan)) (s : Session), P s.store →
      P (s.addBundles plans).store := by
    intro plans
    induction plans with
    | nil =>
        intro s hs
        exact hs
    | cons entry rest ih =>
        intro s hs
        obtain ⟨name, source, items⟩ := entry
        cases items with
        | none => exact ih _ hs
        | some items => exact ih _ (h.add hs items)
  exact hadd plan.bundles _ hempty

end Session.IsKept

/-! ## Distinct keys -/

theorem Resources.Store.HasDistinctKeys.addPairs {s : Store} (h : s.HasDistinctKeys)
    (items : List (Text × Option Text)) :
    (s.add ⟨Dict.ofPairs items, false⟩).HasDistinctKeys := by
  refine h.add ?_
  rw [Dict.keys_ofPairs]
  exact Dict.nodup_eraseDups _

theorem Session.isKept_hasDistinctKeys [Platform] : Session.IsKept Store.HasDistinctKeys where
  load h r fs := by
    rcases r.load_store_cases fs _ with hsame | ⟨key, entries, -, -, hresolve, hstore⟩
    · rw [hsame]
      exact h
    · rw [hstore]
      exact h.resolvedTo (Layout.nodup_keys_of_resolve hresolve) _ key
  assign h hassign := h.assign? hassign
  clear h _ := h
  add h items := h.addPairs items
  addHeld h items _ _ := h.addPairs items

/-- The keys of every mapping are distinct in every store that a session comes to. -/
theorem Session.hasDistinctKeys_runSteps [Platform] (plan : Session.Plan)
    (steps : List Session.Step) :
    ((Session.start plan).runSteps steps).2.store.HasDistinctKeys :=
  isKept_hasDistinctKeys.runSteps _
    (isKept_hasDistinctKeys.start Store.hasDistinctKeys_empty plan) steps

/-! ## Known mappings -/

theorem Session.isKept_knowsHeld [Platform] : Session.IsKept Store.KnowsHeld where
  load h r fs := by
    rcases r.load_store_cases fs _ with hsame | ⟨key, entries, -, -, -, hstore⟩
    · rw [hsame]
      exact h
    · rw [hstore]
      exact h.addHeld _ _ key
  assign h hassign := h.assign? hassign
  clear h cache := h.clear cache
  add h items := h.add _
  addHeld h items cache key := h.addHeld _ cache key

/-- Mappings that are there stay there. -/
theorem Session.isKept_le_nextId [Platform] (n : Nat) : Session.IsKept (n ≤ ·.nextId) where
  load h r fs := Nat.le_trans h (r.grows_load fs _).nextId
  assign h hassign := by
    rw [Store.nextId_assign? hassign]
    exact h
  clear h _ := h
  add h items := by
    rw [Store.nextId_add]
    exact Nat.le_succ_of_le h
  addHeld h items cache key := by
    change n ≤ (Store.add _ _).nextId
    rw [Store.nextId_add]
    exact Nat.le_succ_of_le h

end Phrasebook
