import Phrasebook.Locale.Localizer
import Phrasebook.Proofs.Traced

/-!
# Results and stores of lookups

What a lookup answers and which store it leaves behind, one law for each way of building it. A
proof about the localizer takes a lookup apart with these laws and opens none of its steps.
-/

namespace Phrasebook.Locale

open Resources (Bundle Entries Loader MappingId Store)

namespace Lookup

variable {α β : Type} {s : Store}

theorem bind_of_ok {x : Lookup α} {a : α} (h : (x s).1.result = .ok a) (f : α → Lookup β) :
    (x >>= f) s =
      (⟨(f a (x s).2).1.result, (x s).1.journal ++ (f a (x s).2).1.journal⟩, (f a (x s).2).2) := by
  change x.bind f s = _
  rw [bind]
  split
  · rename_i e journal t heq
    rw [heq] at h
    cases h
  · rename_i other journal t heq
    rw [heq] at h
    cases h
    rw [heq]

theorem bind_of_error {x : Lookup α} {e : Error} (h : (x s).1.result = .error e)
    (f : α → Lookup β) : (x >>= f) s = (⟨.error e, (x s).1.journal⟩, (x s).2) := by
  change x.bind f s = _
  rw [bind]
  split
  · rename_i other journal t heq
    rw [heq] at h
    cases h
    rw [heq]
  · rename_i a journal t heq
    rw [heq] at h
    cases h

theorem result_bind (x : Lookup α) (f : α → Lookup β) (s : Store) :
    ((x >>= f) s).1.result = (x s).1.result.bind fun a => (f a (x s).2).1.result := by
  cases h : (x s).1.result with
  | error e =>
      rw [bind_of_error h]
      rfl
  | ok a =>
      rw [bind_of_ok h]
      rfl

/-- The store that a row of lookups leaves behind is that of the last one made. -/
theorem bind_store (x : Lookup α) (f : α → Lookup β) (s : Store) :
    ((x >>= f) s).2 = (x s).2 ∨ ∃ a, ((x >>= f) s).2 = (f a (x s).2).2 := by
  cases h : (x s).1.result with
  | error e =>
      rw [bind_of_error h]
      exact .inl rfl
  | ok a =>
      rw [bind_of_ok h]
      exact .inr ⟨a, rfl⟩

variable [Platform]

/-- Looking up a text as the locale is a load from the store. -/
theorem load_text (fs : FileSystem) (loader : Loader) (bundle : Bundle) (locale : Text)
    (s : Store) : load fs loader bundle (.text locale) s =
      ((s.load fs loader bundle locale).1.mapError .load, (s.load fs loader bundle locale).2) :=
  rfl

end Lookup

variable [Platform]

/-- A lookup of a key reads the mapping that a load of its locale gives. -/
theorem Localizer.result_lookup_of_load {l : Localizer} {fs : FileSystem}
    {context : Option RequestContext} {s : Store} {bundle : Bundle} {tag : Text} {locale : Value}
    {id : MappingId} (hchosen : l.chosen context locale = .text tag)
    (hload : (s.load fs l.loader bundle tag).1.result = .ok id) (key : Value) :
    (l.lookup fs context bundle key locale s).1.result =
      textOf ((s.load fs l.loader bundle tag).2.entries id) key := by
  have hfound : (Lookup.load fs l.loader bundle (.text tag) s).1.result = .ok id := by
    rw [Lookup.load_text, Traced.result_mapError, hload]
    rfl
  rw [lookup, hchosen, Lookup.bind_of_ok hfound, Lookup.load_text, Lookup.bind_of_ok rfl]
  rfl

end Phrasebook.Locale
