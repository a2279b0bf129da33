import Phrasebook.Files.Basic
import Phrasebook.Proofs.Json.Written
import Phrasebook.Proofs.Resources.SoleFile
import Phrasebook.Proofs.Text.Utf8

/-!
# Files with written entries

Entries that are written as JSON into the only file of a source are what the base language resolves
to, with all keys, texts and nulls in their order. It makes no difference whether line ends are
turned into line feeds when the file is read.
-/

namespace Phrasebook.Resources

variable {l : Layout} {fs : FileSystem} {source path : Text} {entries : Entries}

theorem entries?_members (entries : Entries) : entries? (Json.members entries) = some entries := by
  induction entries with
  | nil => rfl
  | cons entry rest ih =>
      obtain ⟨key, value⟩ := entry
      rw [Json.members_cons, entries?.eq_def]
      dsimp only
      rw [ih]
      cases value with
      | none | some => rfl

/-- A file with written entries has those entries. -/
theorem parseFile_write [Platform] (hnodup : entries.keys.Nodup) (path : Text) :
    (parseFile path (.ok (Json.write entries))).result = .ok entries := by
  simp only [parseFile, Json.read_write hnodup, entries?_members]
  rfl

/-- The base language of a source has one file, with some bytes, which are read as they are or with
line feeds for line ends. -/
structure Layout.HoldsOnly (l : Layout) (fs : FileSystem) (source path : Text)
    (bytes : List UInt8) : Prop where
  selects : l.Selects fs source l.baseLang path
  only : l.SelectsOnly fs source (l.tags l.baseLang) path
  read : fs.read path = decodeText bytes ∨ fs.read path = (decodeText bytes).map Text.withLineFeeds

theorem decodeText_encode (text : Text) : decodeText (Text.Utf8.encode text) = .ok text := by
  rw [decodeText, Text.Utf8.decode_encode]
  rfl

/-- Line ends make no difference to a file with written entries. -/
theorem Layout.HoldsOnly.read_eq
    (h : l.HoldsOnly fs source path (Text.Utf8.encode (Json.write entries))) :
    fs.read path = .ok (Json.write entries) := by
  rcases h.read with hread | hread
  · rw [hread, decodeText_encode]
  · rw [hread, decodeText_encode]
    exact congrArg Except.ok (Json.withLineFeeds_write entries)

/-- Where the only file of a source has written entries, its base language resolves to them. -/
theorem Layout.HoldsOnly.resolve [Platform]
    (h : l.HoldsOnly fs source path (Text.Utf8.encode (Json.write entries)))
    (hnodup : entries.keys.Nodup) : (l.resolve fs source l.baseLang).result = .ok entries := by
  have hparse : (parseFile path (fs.read path)).result = .ok entries := by
    rw [h.read_eq]
    exact parseFile_write hnodup path
  rcases h.only.mergeLayers_nil hparse hnodup with ⟨-, hresolve⟩ | ⟨hnone, -⟩
  · exact hresolve
  · exact absurd h.selects (hnone _ (mem_tags_iff.2 (.inl rfl)))

end Phrasebook.Resources
