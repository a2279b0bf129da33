import Phrasebook.Proofs.Resources.Memory

/-!
# Mappings with distinct keys

Entries are kept as a list, in which a key could come twice. It never does: what is resolved from
files has distinct keys, and giving a key of a mapping a text keeps them so.
-/

namespace Phrasebook.Resources

/-- What a locale resolves to has distinct keys. -/
theorem Layout.nodup_keys_of_resolve [Platform] {l : Layout} {fs : FileSystem}
    {source locale : Text}
    {entries : Entries} (h : (l.resolve fs source locale).result = .ok entries) :
    entries.keys.Nodup := by
  obtain ⟨_, _, hentries⟩ := exists_rows_of_resolve h
  exact hentries.nodup

namespace Store

/-- The keys of every mapping are distinct. -/
def HasDistinctKeys (s : Store) : Prop :=
  ∀ mapping ∈ s.mappings, mapping.entries.keys.Nodup

theorem hasDistinctKeys_empty : HasDistinctKeys empty := by
  intro mapping hmem
  cases hmem

namespace HasDistinctKeys

variable {s t : Store} {id : MappingId} {key : Text} {text : Option Text}

theorem entries (h : s.HasDistinctKeys) (id : MappingId) : (s.entries id).keys.Nodup := by
  rw [Store.entries]
  cases hmapping : s.mappings[id]? with
  | none => exact List.nodup_nil
  | some mapping => exact h mapping (List.mem_of_getElem? hmapping)

theorem add (h : s.HasDistinctKeys) {mapping : Mapping} (hkeys : mapping.entries.keys.Nodup) :
    (s.add mapping).HasDistinctKeys := by
  intro other hmem
  rcases List.mem_append.1 hmem with hold | hnew
  · exact h other hold
  · rw [List.mem_singleton.1 hnew]
    exact hkeys

theorem assign? (h : s.HasDistinctKeys) (hassign : s.assign? id key text = some t) :
    t.HasDistinctKeys := by
  obtain ⟨entries, hmapping, rfl⟩ := assign?_eq_some hassign
  intro other hmem
  rcases List.mem_or_eq_of_mem_set hmem with hold | rfl
  · exact h other hold
  · exact Dict.nodup_keys_put (h _ (List.mem_of_getElem? hmapping)) key text

theorem resolvedTo (h : s.HasDistinctKeys) {entries : Entries} (hkeys : entries.keys.Nodup)
    (cache : CacheId) (key : BundleKey) : (s.resolvedTo cache key entries).HasDistinctKeys :=
  h.add hkeys

end HasDistinctKeys

end Store

end Phrasebook.Resources
