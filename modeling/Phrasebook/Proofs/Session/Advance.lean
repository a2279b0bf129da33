import Phrasebook.Proofs.Session.Control
import Phrasebook.Proofs.Session.Operations

/-!
# One operation of a session

The step lemma of sessions. `Advance` says all that an operation does to resources: the tables of
loaders and bundles stay, what has been seen stays in its place, and the store changes in one of
three ways. The operation that puts a mapping into a cache by hand is left out, since it remembers
what no load has resolved.
-/

namespace Phrasebook.Session

open Phrasebook.Locale (Localizer Lookup Request)
open Resources

variable {s t : Session} {operation : Operation}

/-- The operation that puts a mapping into a cache by hand. -/
def Operation.putsByHand : Operation → Bool
  | .cachePut .. => true
  | _ => false

/-- An operation clears a cache through a loader that uses it. -/
def Clears (s : Session) (operation : Operation) (cache : CacheId) : Prop :=
  ∃ name loader, operation = .cacheClear name ∧ s.loader name = .ok loader ∧ loader.cache = cache

/-! ## The invariant of sessions -/

/-- The mapping that stands in for the files of a bundle is there. -/
def IsKnown (store : Store) (bundle : Bundle) : Prop :=
  ∀ id, bundle.precomputed = some id → id < store.nextId

theorem IsKnown.mono {store later : Store} {bundle : Bundle} (h : IsKnown store bundle)
    (hgrows : store.nextId ≤ later.nextId) : IsKnown later bundle := by
  intro id hid
  exact Nat.lt_of_lt_of_le (h id hid) hgrows

/-- The store is sound, and every mapping that a session names is in it. -/
structure IsSound (s : Session) : Prop where
  store : s.store.IsSound
  seen : ∀ id ∈ s.seen, id < s.store.nextId
  bundles : ∀ {name bundle}, s.bundles.get? name = some bundle → IsKnown s.store bundle
  accessors : ∀ {name accessor bundle}, s.accessors.get? name = some accessor →
    accessor.bundle = .ok bundle → IsKnown s.store bundle

theorem IsSound.bundle (h : s.IsSound) {ref : BundleRef} {bundle : Bundle}
    (hbundle : s.bundle ref = .ok bundle) : IsKnown s.store bundle := by
  cases ref with
  | source path =>
      cases hbundle
      rintro id ⟨⟩
  | path path =>
      cases hbundle
      rintro id ⟨⟩
  | named name =>
      simp only [Session.bundle] at hbundle
      split at hbundle
      · rename_i found hfound
        cases hbundle
        exact h.bundles hfound
      · cases hbundle

theorem bundle_of_described {ref : BundleRef} {bundle : Bundle}
    (h : s.described ref = .ok bundle) : s.bundle ref = .ok bundle := by
  cases ref with
  | source path => exact h
  | path path => cases h
  | named name => exact h

theorem IsSound.request (h : s.IsSound) {r : Request} (hr : s.request? operation = some r) :
    IsKnown s.store r.bundle := by
  rw [request?.eq_def] at hr
  split at hr
  · split at hr
    · rename_i loader bundle hloader hbundle
      cases hr
      exact h.bundle (bundle_of_described hbundle)
    · cases hr
  · split at hr
    · cases hr
    · rename_i accessor haccessor
      split at hr
      · rename_i locale bundle hlocale hbundle
        cases hr
        exact h.accessors haccessor hbundle
      · cases hr
  · cases hr

/-! ## Steps -/

/-- Loaders and bundles are the same, and accessors keep to the bundles. -/
structure SameTables (s t : Session) : Prop where
  loaders : t.loaders = s.loaders
  loader : t.localizer.loader = s.localizer.loader
  bundles : t.bundles = s.bundles
  accessors : ∀ {name accessor bundle}, t.accessors.get? name = some accessor →
    accessor.bundle = .ok bundle →
    s.accessors.get? name = some accessor ∨ ∃ ref, s.bundle ref = .ok bundle

theorem SameTables.of_eq (hloaders : t.loaders = s.loaders)
    (hloader : t.localizer.loader = s.localizer.loader) (hbundles : t.bundles = s.bundles)
    (haccessors : t.accessors = s.accessors) : s.SameTables t := by
  refine ⟨hloaders, hloader, hbundles, ?_⟩
  intro name accessor bundle haccessor _
  rw [haccessors] at haccessor
  exact .inl haccessor

/-- What has been seen stays in its place, and what is new there is in the store. -/
structure Notes (store : Store) (seen later : List MappingId) : Prop where
  before : seen <+: later
  known : ∀ id ∈ later, id ∈ seen ∨ id < store.nextId

theorem Notes.same (store : Store) (seen : List MappingId) : Notes store seen seen := by
  refine ⟨List.prefix_rfl, ?_⟩
  intro id hid
  exact .inl hid

theorem Notes.noted {store : Store} {id : MappingId} (hid : id < store.nextId)
    (seen : List MappingId) : Notes store seen (noted seen id) := by
  by_cases hmem : id ∈ seen
  · rw [noted_of_mem hmem]
    exact .same store seen
  · rw [noted_of_not_mem hmem]
    refine ⟨List.prefix_append seen _, ?_⟩
    intro other hother
    rcases List.mem_append.1 hother with hold | hnew
    · exact .inl hold
    · cases List.mem_singleton.1 hnew
      exact .inr hid

/-- What an operation does to the store. -/
inductive Change [Platform] (s : Session) (operation : Operation) : Store → Prop
  | loads (made : List Request) (hmade : ∀ r ∈ made, r ∈ s.requests operation) :
      Change s operation (Request.loadAll s.files.fileSystem s.store made)
  | writes {id : MappingId} {key : Text} {text : Option Text} {store : Store}
      (made : List Request) (hmade : ∀ r ∈ made, r ∈ s.requests operation)
      (hassign : (Request.loadAll s.files.fileSystem s.store made).assign? id key text =
        some store) :
      Change s operation store
  | clears {name : Option Text} {loader : Loader} (hname : operation = .cacheClear name)
      (hloader : s.loader name = .ok loader) : Change s operation (s.store.clear loader.cache)

/-- What an operation does to the resources of a session. -/
structure Advance [Platform] (s : Session) (operation : Operation) (t : Session) : Prop where
  tables : s.SameTables t
  seen : Notes t.store s.seen t.seen
  store : Change s operation t.store

theorem Change.same [Platform] (s : Session) (operation : Operation) : Change s operation s.store :=
    by
  apply Change.loads []
  intro r hr
  cases hr

theorem Change.load [Platform] {r : Request} (hr : r ∈ s.requests operation) :
    Change s operation (r.load s.files.fileSystem s.store).2 := by
  apply Change.loads [r]
  intro other hother
  cases List.mem_singleton.1 hother
  exact hr

/-- An operation that does nothing to resources. -/
theorem Advance.quiet [Platform] (htables : s.SameTables t) (hstore : t.store = s.store)
    (hseen : t.seen = s.seen) : s.Advance operation t := by
  refine ⟨htables, ?_, ?_⟩
  · rw [hseen]
    exact .same t.store s.seen
  · rw [hstore]
    exact .same s operation

theorem Advance.same [Platform] (s : Session) (operation : Operation) : s.Advance operation s :=
  .quiet (.of_eq rfl rfl rfl rfl) rfl rfl

/-- A step that is only taken if something is given. -/
theorem advance_given [Platform] {α : Type} {x : Except Error α} {f : α → Effect}
    (hgo : ∀ a, x = .ok a → s.Advance operation (f a).2) :
    s.Advance operation (given x s f).2 := by
  cases x with
  | error e => exact .same s operation
  | ok a => exact hgo a rfl

theorem withStore_snd {α : Type} (x : Lookup α) {f : α → Session → Answer × Session}
    (hf : ∀ a u, (f a u).2 = u) : (s.withStore x f).2 = { s with store := (x s.store).2 } := by
  rw [withStore]
  split
  · rename_i heq
    rw [heq]
  · rename_i heq
    rw [heq]
    exact hf _ _

theorem advance_withStore [Platform] {α : Type} {x : Lookup α} {f : α → Session → Answer × Session}
    (hx : x.Makes s.files.fileSystem (s.requests operation)) (hf : ∀ a u, (f a u).2 = u) :
    s.Advance operation (s.withStore x f).2 := by
  obtain ⟨made, hmade, hstore⟩ := hx s.store
  rw [withStore_snd x hf]
  refine ⟨.of_eq rfl rfl rfl rfl, .same _ _, ?_⟩
  change Change s operation (x s.store).2
  rw [hstore]
  exact .loads made hmade

/-- What a request gives is in the store. -/
theorem IsSound.id_lt_of_load [Platform] (h : s.IsSound) {r : Request}
    (hknown : IsKnown s.store r.bundle)
    {id : MappingId} (hload : (r.load s.files.fileSystem s.store).1.result = .ok id) :
    id < (r.load s.files.fileSystem s.store).2.nextId := by
  rcases r.load_eq_ok_cases hload with ⟨hprecomputed, hstore⟩ | ⟨key, _, hheld⟩
  · rw [hstore]
    exact hknown id hprecomputed
  · exact (r.isSound_load h.store _).known hheld

theorem IsSound.advance_load [Platform] (h : s.IsSound) {r : Request}
    (hr : r ∈ s.requests operation) (hknown : IsKnown s.store r.bundle) :
    s.Advance operation (s.load r.loader r.bundle r.locale).2 := by
  cases hload : (r.load s.files.fileSystem s.store).1.result with
  | error e =>
      rw [load_of_error hload]
      exact ⟨.of_eq rfl rfl rfl rfl, .same _ _, .load hr⟩
  | ok id =>
      rw [load_of_ok hload]
      exact ⟨.of_eq rfl rfl rfl rfl, .noted (h.id_lt_of_load hknown hload) _, .load hr⟩

theorem IsSound.advance_assignItem [Platform] (h : s.IsSound) {r : Request}
    (hr : r ∈ s.requests operation)
    (hknown : IsKnown s.store r.bundle) (key : Text) (text : Option Text) :
    s.Advance operation (s.assignItem r.loader r.bundle r.locale key text).2 := by
  have hsame : s.Advance operation { s with store := (r.load s.files.fileSystem s.store).2 } :=
    ⟨.of_eq rfl rfl rfl rfl, .same _ _, .load hr⟩
  rw [assignItem_eq]
  cases hload : (r.load s.files.fileSystem s.store).1.result with
  | error e =>
      simp only [hload]
      exact hsame
  | ok id =>
      simp only [hload]
      cases hassign : (r.load s.files.fileSystem s.store).2.assign? id key text with
      | none =>
          exact hsame
      | some written =>
          have hlt := h.id_lt_of_load hknown hload
          rw [← Store.nextId_assign? hassign] at hlt
          refine ⟨.of_eq rfl rfl rfl rfl, .noted hlt _, ?_⟩
          refine .writes [r] ?_ hassign
          intro other hother
          cases List.mem_singleton.1 hother
          exact hr

/-- Formatting only makes requests. -/
theorem advance_format [Platform] {locale : Value} {source : Source} (args : List Value)
    (h : s.requests operation = s.sourceRequests locale source) :
    s.Advance operation (s.format locale source args).2 := by
  cases source with
  | template text =>
      apply advance_given
      intro text _
      exact .same s operation
  | bundle ref =>
      apply advance_given
      intro bundle hbundle
      refine advance_withStore ?_ fun _ _ => rfl
      apply s.localizer.formatLocale_makes
      rw [h, sourceRequests, hbundle]
      exact List.mem_singleton_self _

/-- What does not touch resources does nothing to them, unless it keeps an accessor. -/
theorem Control.advance [Platform] (h : s.Control operation t)
    (hcontrols : operation.isQuiet = false)
    (hkeeps : operation.keptName? = none) : s.Advance operation t := by
  cases h with
  | quiet hquiet =>
      rw [hcontrols] at hquiet
      cases hquiet
  | keep hname | refuseKeep hname =>
      rw [hkeeps] at hname
      cases hname
  | _ => exact .quiet (.of_eq rfl rfl rfl rfl) rfl rfl

/-- A kept accessor keeps to the bundles of the session. -/
theorem advance_keep [Platform] (operation : Operation) (name : Text) {accessor : Accessor}
    (h : ∀ bundle, accessor.bundle = .ok bundle → ∃ ref, s.bundle ref = .ok bundle) :
    s.Advance operation (s.keep name accessor).2 := by
  refine .quiet ⟨rfl, rfl, rfl, ?_⟩ rfl rfl
  intro other found bundle hfound hbundle
  change (s.accessors.put name accessor).get? other = _ at hfound
  rw [Dict.get?_put] at hfound
  split at hfound
  · cases hfound
    exact .inr (h bundle hbundle)
  · exact .inl hfound

/-- A look at a mapping that a cache remembers. -/
theorem IsSound.advance_view [Platform] (h : s.IsSound) (operation : Operation) {cache : CacheId}
    {key : BundleKey} {id : MappingId} (hheld : s.store.held cache key = some id) :
    s.Advance operation (view id s).2 := by
  rw [view_eq]
  exact ⟨.of_eq rfl rfl rfl rfl, .noted (h.store.known hheld) _, .same s operation⟩

/-- What any operation does to the resources of a session. -/
theorem IsSound.advance [Platform] (h : s.IsSound) (hoperation : operation.putsByHand = false) :
    s.Advance operation (s.perform operation).2 := by
  cases operation with
  | write path bytes => exact .quiet (.of_eq rfl rfl rfl rfl) rfl rfl
  | delete path => exact .quiet (.of_eq rfl rfl rfl rfl) rfl rfl
  | makeDirectory path => exact .quiet (.of_eq rfl rfl rfl rfl) rfl rfl
  | load name ref locale =>
      apply advance_given
      intro loader hloader
      apply advance_given
      intro bundle hbundle
      have hr : s.request? (.load name ref locale) = some ⟨loader, bundle, locale⟩ := by
        simp only [request?, hloader, hbundle]
      exact h.advance_load (r := ⟨loader, bundle, locale⟩) (Option.mem_toList.2 hr) (h.request hr)
  | keepAccessor name loader ref locale =>
      apply advance_given
      intro found _
      apply advance_given
      intro named _
      apply advance_keep
      intro bundle hbundle
      exact ⟨ref, bundle_of_described hbundle⟩
  | keepResources name ref locale =>
      apply advance_given
      intro found hfound
      apply advance_keep
      intro bundle hbundle
      cases hbundle
      exact ⟨ref, hfound⟩
  | call name =>
      simp only [perform]
      split
      · exact .same s _
      · rename_i accessor haccessor
        apply advance_given
        intro locale hlocale
        apply advance_given
        intro bundle hbundle
        have hr : s.request? (.call name) = some ⟨accessor.loader, bundle, locale⟩ := by
          simp only [request?, haccessor, hlocale, hbundle]
        exact h.advance_load (r := ⟨accessor.loader, bundle, locale⟩) (Option.mem_toList.2 hr)
          (h.request hr)
  | setVariable name value => exact .quiet (.of_eq rfl rfl rfl rfl) rfl rfl
  | assignItem name ref locale key text =>
      apply advance_given
      intro loader hloader
      apply advance_given
      intro bundle hbundle
      have hr : s.request? (.load name ref locale) = some ⟨loader, bundle, locale⟩ := by
        simp only [request?, hloader, hbundle]
      have hmem : ⟨loader, bundle, locale⟩ ∈ s.requests (.assignItem name ref locale key text) :=
        Option.mem_toList.2 hr
      exact h.advance_assignItem hmem (h.request hr) key text
  | cacheSize name =>
      apply advance_given
      intro loader _
      exact .same s _
  | cacheClear name =>
      apply advance_given
      intro loader hloader
      exact ⟨.of_eq rfl rfl rfl rfl, .same _ _, .clears rfl hloader⟩
  | cacheHas name source locale =>
      apply advance_given
      intro loader _
      exact .same s _
  | cacheGet name source locale =>
      apply advance_given
      intro loader _
      split
      · exact .same s _
      · rename_i id hheld
        exact h.advance_view _ hheld
  | cachePut name source locale items => cases hoperation
  | context =>
      simp only [perform]
      split
      · exact .same s _
      · exact .same s _
  | bind | reset | assign | setHook | switch => exact (s.control _).advance rfl rfl
  | state =>
      apply advance_given
      intro isRtl _
      exact .same s _
  | hookCalls => exact .same s _
  | format source args => exact advance_format args rfl
  | formatLocale locale source args => exact advance_format args rfl
  | formatAll ref key =>
      apply advance_given
      intro bundle hbundle
      refine advance_withStore ?_ fun _ _ => rfl
      simp only [requests, hbundle]
      exact s.localizer.formatAll_makes _ _ bundle key
  | payload source accept =>
      refine advance_withStore ?_ fun _ _ => rfl
      exact s.localizer.payload_makes _ _ source accept

end Phrasebook.Session
