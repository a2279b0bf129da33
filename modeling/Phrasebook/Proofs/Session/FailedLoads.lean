import Phrasebook.Proofs.Resources.Reads
import Phrasebook.Proofs.Session.Memoisation

/-!
# Loads that fail

A load does all that it does or nothing. If it fails, at whichever layer and for whatever reason,
the session is the one from before, so whatever is done later, with other files or with the same,
goes as if the load had not been tried; and of the tags behind the one that made it fail nothing
has been looked at. If it succeeds for a key that its cache does not remember, one mapping is made
and one entry is added to one cache.
-/

namespace Phrasebook

open Phrasebook.Locale (Request)
open Resources

/-- Merging the layers of some tags stops at one of them: those before it could be merged, it could
not, and what was asked and read is what merging it and those before it asks and reads. -/
structure Resources.Layout.StopsAt [Platform] (l : Layout) (fs : FileSystem) (source : Text)
    (tags before : List Text) (tag : Text) (e : LoadError) (calls : List FileCall) : Prop where
  place : ∃ after, tags = before ++ tag :: after
  fails : ∃ below, (l.mergeLayers fs source [] before).result = .ok below ∧
    (l.mergeLayer fs source below tag).result = .error e
  asked : calls = (l.mergeLayers fs source [] (before ++ [tag])).journal.calls
  reads : ∀ path, .read path ∈ calls → ∃ t ∈ before ++ [tag], l.Selects fs source t path

theorem Resources.Layout.exists_stopsAt [Platform] {l : Layout} {fs : FileSystem} {source : Text}
    {tags : List Text} {e : LoadError} (h : (l.mergeLayers fs source [] tags).result = .error e) :
    ∃ before tag,
      l.StopsAt fs source tags before tag e (l.mergeLayers fs source [] tags).journal.calls := by
  obtain ⟨before, tag, after, below, htags, hbefore, htag, hsame⟩ := exists_failing_layer h
  have hcalls : (l.mergeLayers fs source [] tags).journal.calls =
      (l.mergeLayers fs source [] (before ++ [tag])).journal.calls := by
    rw [hsame]
  refine ⟨before, tag, ⟨after, htags⟩, ⟨below, hbefore, htag⟩, hcalls, ?_⟩
  intro path hread
  rw [hcalls] at hread
  exact exists_selects_of_read hread

namespace Session

variable {s : Session} {operation : Operation} {r : Request} {cache : CacheId} {key : BundleKey}

/-- A load that fails leaves the session as it is. -/
theorem perform_of_failed [Platform] (hr : s.request? operation = some r) {e : Error}
    (h : (s.perform operation).1.result = .error e) :
    s.perform operation =
      (⟨.error e, (r.load s.files.fileSystem s.store).1.journal⟩, s) ∧
    (r.load s.files.fileSystem s.store).1.result = .error e := by
  rw [perform_of_request hr] at h ⊢
  cases hload : (r.load s.files.fileSystem s.store).1.result with
  | ok id =>
      rw [load_of_ok hload] at h
      cases h
  | error other =>
      rw [load_of_error hload] at h ⊢
      cases h
      refine ⟨congrArg (Prod.mk _) ?_, rfl⟩
      rw [Request.load_store_of_error hload]

/-- A load of files that fails could not resolve its key. -/
theorem resolve_of_failed [Platform] (hasks : r.Asks cache key) {fs : FileSystem} {store : Store}
    {e : Error}
    (h : (r.load fs store).1.result = .error e) :
    ∃ cause, e = .load cause ∧
      (r.loader.layout.resolve fs key.source key.locale).result = .error cause ∧
      (r.load fs store).1.journal.calls =
        (r.loader.layout.resolve fs key.source key.locale).journal.calls := by
  cases hheld : store.held cache key with
  | some id =>
      rw [Request.load_of_held hasks hheld] at h
      cases h
  | none =>
      cases hresolve : (r.loader.layout.resolve fs key.source key.locale).result with
      | ok entries =>
          rw [Request.load_of_resolved hasks hheld hresolve] at h
          cases h
      | error cause =>
          rw [Request.load_of_unresolved hasks hheld hresolve] at h ⊢
          cases h
          exact ⟨cause, rfl, rfl, rfl⟩

/-- A load of files that succeeds for a key without a mapping makes one, and remembers it under
that key alone. -/
theorem perform_of_resolved [Platform] (hr : s.request? operation = some r)
    (hasks : r.Asks cache key) (hmiss : s.store.held cache key = none) {answer : Answer}
    (h : (s.perform operation).1.result = .ok answer) :
    ∃ entries,
      (r.loader.layout.resolve s.files.fileSystem key.source key.locale).result = .ok entries ∧
      (s.perform operation).2.store = s.store.resolvedTo cache key entries ∧
      ∃ number, answer = .view ⟨number, entries⟩ := by
  rw [perform_of_request hr] at h ⊢
  cases hresolve : (r.loader.layout.resolve s.files.fileSystem key.source key.locale).result with
  | error e =>
      rw [load_of_error (by rw [Request.load_of_unresolved hasks hmiss hresolve])] at h
      cases h
  | ok entries =>
      have hload := Request.load_of_resolved hasks hmiss hresolve
      rw [load_of_ok (by rw [hload])] at h ⊢
      simp only [hload, Store.entries_resolvedTo_nextId] at h ⊢
      cases h
      exact ⟨entries, rfl, rfl, _, rfl⟩

/-- A load is all or nothing, in every session. If it fails, the session stays as it is, so that
all later steps go as they would have gone without it, and where files were to be resolved, merging
their layers stopped at the first tag whose layer could not be merged. If it succeeds for a key that
is not remembered, the mapping that it answers with is added, its cache gets one entry at the end,
and all other entries of all caches stay. -/
theorem load_all_or_nothing [Platform] (hr : s.request? operation = some r) :
    (∀ e, (s.perform operation).1.result = .error e →
      (s.perform operation).2 = s ∧
      (∀ later, s.runSteps (.perform operation :: later) =
        (.performed (s.perform operation).1 :: (s.runSteps later).1, (s.runSteps later).2)) ∧
      ∀ cache key, r.Asks cache key → ∃ before tag cause, e = .load cause ∧
        r.loader.layout.StopsAt s.files.fileSystem key.source
          (r.loader.layout.tags key.locale) before tag cause
          (s.perform operation).1.journal.calls) ∧
    ∀ cache key answer, r.Asks cache key → s.store.held cache key = none →
      (s.perform operation).1.result = .ok answer →
      ∃ number entries, answer = .view ⟨number, entries⟩ ∧
        (r.loader.layout.resolve s.files.fileSystem key.source key.locale).result = .ok entries ∧
        (s.perform operation).2.store.mappings = s.store.mappings ++ [⟨entries, true⟩] ∧
        (s.perform operation).2.store.cache cache =
          s.store.cache cache ++ [(key, s.store.nextId)] ∧
        ∀ other, other ≠ cache →
          (s.perform operation).2.store.cache other = s.store.cache other := by
  constructor
  · intro e he
    obtain ⟨hperform, hload⟩ := perform_of_failed hr he
    have hsame : (s.perform operation).2 = s := by rw [hperform]
    refine ⟨hsame, ?_, ?_⟩
    · intro later
      rw [runSteps, runStep, hperform]
    · intro cache key hasks
      obtain ⟨cause, hcause, hresolve, hcalls⟩ := resolve_of_failed hasks hload
      obtain ⟨before, tag, hstops⟩ := Layout.exists_stopsAt hresolve
      rw [hperform]
      refine ⟨before, tag, cause, hcause, ?_⟩
      exact hcalls ▸ hstops
  · intro cache key answer hasks hmiss hanswer
    obtain ⟨entries, hresolve, hstore, number, rfl⟩ := perform_of_resolved hr hasks hmiss hanswer
    rw [hstore]
    refine ⟨number, entries, rfl, hresolve, rfl, ?_, ?_⟩
    · rw [Store.cache_resolvedTo entries hmiss, if_pos rfl]
    · intro other hother
      rw [Store.cache_resolvedTo entries hmiss, if_neg hother]

/-- The menu with a German file that is no JSON. -/
def brokenMenuPlan : Plan :=
  { menuPlan with
    files := .flat (menu.write "/app/resources/menu-de.json".toList (asciiBytes "oops")) }

/-- The German file makes a load fail before the Austrian one is looked for, and the English one is
loaded after that into an empty cache. -/
theorem load_all_or_nothing_menu :
    let s := start brokenMenuPlan
    let austrian := Operation.load none (.source menuSource) (.text "de-AT".toList)
    let english := Operation.load none (.source menuSource) (.text "en".toList)
    s.request? austrian = some ⟨englishLoader, ⟨menuSource, none⟩, .text "de-AT".toList⟩ ∧
      s.request? english = some ⟨englishLoader, ⟨menuSource, none⟩, .text "en".toList⟩ ∧
      (∃ before tag cause, (s.perform austrian).1.result = .error (.load cause) ∧
        englishLoader.layout.StopsAt s.files.fileSystem menuSource
          ["en".toList, "de".toList, "de-AT".toList] before tag cause
          (s.perform austrian).1.journal.calls) ∧
      (s.runSteps [.perform austrian, .perform english]).2 = (s.perform english).2 ∧
      (s.perform english).2.store.cache 0 = [(⟨menuSource, "en".toList⟩, 0)] := by
  intro s austrian english
  have hr : s.request? austrian =
      some ⟨englishLoader, ⟨menuSource, none⟩, .text "de-AT".toList⟩ := by cbv
  have hr' : s.request? english =
      some ⟨englishLoader, ⟨menuSource, none⟩, .text "en".toList⟩ := by cbv
  have hstore : s.store = .empty := by rfl
  have hfails : (s.perform austrian).1.result = .error (.load (.malformed
      "/app/resources/menu-de.json".toList (.unparsable .value ⟨0, 1, 1⟩))) := by cbv
  have hanswer : (s.perform english).1.result = .ok (.view ⟨0, [("title".toList,
      some "Home".toList), ("back".toList, some "Back".toList)]⟩) := by cbv
  have htags : englishLoader.layout.tags "de-AT".toList =
      ["en".toList, "de".toList, "de-AT".toList] := by cbv
  obtain ⟨_, hlater, hstops⟩ := (load_all_or_nothing hr).1 _ hfails
  obtain ⟨before, tag, cause, hcause, hstops⟩ :=
    hstops 0 ⟨menuSource, "de-AT".toList⟩ ⟨rfl, rfl, rfl⟩
  obtain ⟨_, _, _, _, _, hcache, _⟩ := (load_all_or_nothing hr').2 0 ⟨menuSource, "en".toList⟩ _
    ⟨rfl, rfl, rfl⟩ (by rw [hstore]; rfl) hanswer
  rw [hstore] at hcache
  refine ⟨hr, hr', ⟨before, tag, cause, ?_, ?_⟩, ?_, hcache⟩
  · rw [hfails, hcause]
  · rw [← htags]
    exact hstops
  · rw [hlater]
    simp only [runSteps, runStep]

end Session

end Phrasebook
