import Phrasebook.Proofs.Locale.Requests
import Phrasebook.Session.Start

/-!
# Requests of operations

What an operation of a session looks up are its requests: one for a load, for the call of an
accessor and for a key that is formatted, and one for each language where all texts are listed. Here
stands what an operation makes of the answer: it shows the mapping, which is noted the first time,
it fills the text, or it writes to the mapping. A request that fails is the error of the operation.
-/

namespace Phrasebook.Session

open Phrasebook.Locale (Localizer Lookup Request)
open Resources

variable {s t : Session} {operation : Operation}

/-! ## Requests -/

/-- The request of a load or of the call of an accessor. -/
def request? (s : Session) : Operation → Option Request
  | .load name ref locale =>
    match s.loader name, s.described ref with
    | .ok loader, .ok bundle => some ⟨loader, bundle, locale⟩
    | _, _ => none
  | .call name =>
    match s.accessors.get? name with
    | none => none
    | some accessor =>
      match s.localeOf accessor.locale, accessor.bundle with
      | .ok locale, .ok bundle => some ⟨accessor.loader, bundle, locale⟩
      | _, _ => none
  | _ => none

/-- The requests that formatting makes. -/
def sourceRequests (s : Session) (locale : Value) : Source → List Request
  | .template _ => []
  | .bundle ref =>
    match s.bundle ref with
    | .ok bundle => [s.localizer.request s.context? bundle locale]
    | .error _ => []

/-- The requests that an operation may make. -/
def requests (s : Session) : Operation → List Request
  | .assignItem name ref locale _ _ => (s.request? (.load name ref locale)).toList
  | .format source _ => s.sourceRequests .null source
  | .formatLocale locale source _ => s.sourceRequests locale source
  | .formatAll ref _ =>
    match s.bundle ref with
    | .ok bundle => s.localizer.allRequests s.context? bundle
    | .error _ => []
  | .payload source accept =>
    [s.localizer.request s.context? ⟨source, none⟩ (.text (Localizer.clientTag accept))]
  | operation => (s.request? operation).toList

/-- A load and the call of an accessor show the mapping that their request gives. -/
theorem perform_of_request [Platform] {r : Request} (h : s.request? operation = some r) :
    s.perform operation = s.load r.loader r.bundle r.locale := by
  rw [request?.eq_def] at h
  split at h
  · rename_i name ref locale
    split at h
    · rename_i loader bundle hloader hbundle
      cases h
      simp only [perform, hloader, hbundle, given]
    · cases h
  · rename_i name
    split at h
    · cases h
    · rename_i accessor haccessor
      split at h
      · rename_i locale bundle hlocale hbundle
        cases h
        simp only [perform, haccessor, hlocale, hbundle, given]
      · cases h
  · cases h

/-! ## Views -/

/-- The mappings that have been seen, once one more is seen. -/
def noted (seen : List MappingId) (id : MappingId) : List MappingId :=
  if seen.contains id then seen else seen ++ [id]

theorem view_eq (id : MappingId) (s : Session) :
    view id s = (.view ⟨(noted s.seen id).idxOf id, s.store.entries id⟩,
      { s with seen := noted s.seen id }) := by
  rw [view, noted]
  split
  · rfl
  · rfl

theorem noted_of_mem {seen : List MappingId} {id : MappingId} (h : id ∈ seen) :
    noted seen id = seen :=
  if_pos (List.contains_iff_mem.2 h)

theorem noted_of_not_mem {seen : List MappingId} {id : MappingId} (h : id ∉ seen) :
    noted seen id = seen ++ [id] :=
  if_neg fun hcontains => h (List.contains_iff_mem.1 hcontains)

theorem mem_noted_self (seen : List MappingId) (id : MappingId) : id ∈ noted seen id := by
  by_cases h : id ∈ seen
  · rw [noted_of_mem h]
    exact h
  · rw [noted_of_not_mem h]
    exact List.mem_append_right _ (List.mem_singleton_self id)

theorem load_of_ok [Platform] {r : Request} {id : MappingId}
    (h : (r.load s.files.fileSystem s.store).1.result = .ok id) :
    s.load r.loader r.bundle r.locale =
      let loaded := r.load s.files.fileSystem s.store
      (⟨.ok (.view ⟨(noted s.seen id).idxOf id, loaded.2.entries id⟩), loaded.1.journal⟩,
        { s with store := loaded.2, seen := noted s.seen id }) := by
  unfold Request.load at h ⊢
  unfold load withStore
  split
  · rename_i heq
    rw [heq] at h
    cases h
  · rename_i heq
    rw [heq] at h ⊢
    cases h
    rw [view_eq]

theorem load_of_error [Platform] {r : Request} {e : Error}
    (h : (r.load s.files.fileSystem s.store).1.result = .error e) :
    s.load r.loader r.bundle r.locale =
      let loaded := r.load s.files.fileSystem s.store
      (⟨.error e, loaded.1.journal⟩, { s with store := loaded.2 }) := by
  unfold Request.load at h ⊢
  unfold load withStore
  split
  · rename_i heq
    rw [heq] at h ⊢
    cases h
    rfl
  · rename_i heq
    rw [heq] at h
    cases h

/-! ## Formatting -/

/-- A lookup whose answer needs nothing more leaves the store behind that it made. -/
theorem withStore_answered {α : Type} (s : Session) (x : Lookup α) (f : α → Answer) :
    s.withStore x (fun a t => (f a, t)) =
      (⟨(x s.store).1.result.map f, (x s.store).1.journal⟩, { s with store := (x s.store).2 }) := by
  rw [withStore]
  split
  · rename_i heq
    rw [heq]
    rfl
  · rename_i heq
    rw [heq]
    rfl

theorem format_bundle_of_ok [Platform] {ref : BundleRef} {bundle : Bundle}
    (h : s.bundle ref = .ok bundle) (locale : Value) (args : List Value) :
    s.format locale (.bundle ref) args =
      let formatted :=
        s.localizer.formatLocale s.files.fileSystem s.context? locale bundle args s.store
      (⟨formatted.1.result.map .text, formatted.1.journal⟩, { s with store := formatted.2 }) := by
  rw [format, h]
  exact s.withStore_answered _ _

theorem format_bundle_of_error [Platform] {ref : BundleRef} {e : Error}
    (h : s.bundle ref = .error e) (locale : Value) (args : List Value) :
    s.format locale (.bundle ref) args = (.fail e, s) := by
  rw [format, h]
  rfl

/-! ## Writing to a mapping -/

/-- Writing to a mapping loads it first, and shows it if it could be written to. -/
theorem assignItem_eq [Platform] (s : Session) (r : Request) (key : Text) (text : Option Text) :
    s.assignItem r.loader r.bundle r.locale key text =
      let loaded := r.load s.files.fileSystem s.store
      match loaded.1.result with
      | .error e => (⟨.error e, loaded.1.journal⟩, { s with store := loaded.2 })
      | .ok id =>
        match loaded.2.assign? id key text with
        | none => (⟨.error .frozen, loaded.1.journal⟩, { s with store := loaded.2 })
        | some store =>
          (⟨.ok (.view ⟨(noted s.seen id).idxOf id, store.entries id⟩), loaded.1.journal⟩,
            { s with store, seen := noted s.seen id }) := by
  unfold assignItem Request.load
  obtain ⟨⟨result, journal⟩, store⟩ :=
    Lookup.load s.files.fileSystem r.loader r.bundle r.locale s.store
  cases result with
  | error e => rfl
  | ok id =>
      dsimp only
      cases store.assign? id key text with
      | none => rfl
      | some written =>
          dsimp only
          rw [view_eq]

end Phrasebook.Session
