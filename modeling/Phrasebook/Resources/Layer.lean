import Phrasebook.Journal
import Phrasebook.Json.Reader
import Phrasebook.Path
import Phrasebook.Text.Word

/-!
# Resources in layers

The resources of a source file lie beside it, in one file for each tag. A locale is resolved
in layers: the base language, then the language of the locale, then the locale itself, where
a layer that repeats the one before is left out. Each layer has at most one file: the one
named for its tag or, for a tag of two characters, the least one named for a region of it.
Later layers replace the values of earlier ones and add their new keys at the end.
-/

namespace Phrasebook.Resources

/-- Texts by their keys; a key may also stand for no text. -/
abbrev Entries := Dict Text (Option Text)

/-- Where the resource files of a source lie, and which language every locale builds on. -/
structure Layout where
  baseLang : Text
  dirname : Text
deriving DecidableEq

namespace Layout

/-- The language of a locale: its first two characters. -/
def language (locale : Text) : Text :=
  locale.take 2

/-- The tags of the layers of a locale. -/
def tags (l : Layout) (locale : Text) : List Text :=
  let language := language locale
  [l.baseLang] ++ (if language ≠ l.baseLang then [language] else []) ++
    (if locale ≠ language then [locale] else [])

/-- The directory of the resource files of a source. -/
def directory (l : Layout) (source : Text) : Text :=
  Path.join (Path.dirname (Path.slashed source)) l.dirname

end Layout

/-- The name that the resource files of a source begin with. -/
def stem (source : Text) : Text :=
  Path.stem (Path.basename (Path.slashed source))

/-- The ending of every resource file. -/
def extension : Text := ".json".toList

/-- The name of the file for a tag. -/
def fileName (stem tag : Text) : Text :=
  stem ++ ['-'] ++ tag ++ extension

/-- Whether a name is that of a file for a region of a tag. -/
def isVariant (stem tag name : Text) : Bool :=
  match Text.dropBeginning? (stem ++ ['-'] ++ tag ++ ['-']) name with
  | none => false
  | some rest =>
    match Text.dropEnding? extension rest with
    | none => false
    | some region => !region.isEmpty && region.all Text.isAsciiWord

/-- The least of some texts in the order of their code points. -/
def least? : List Text → Option Text
  | [] => none
  | name :: rest =>
    match least? rest with
    | none => some name
    | some other => some (if other < name then other else name)

/-- The file for a tag, if there is one in the directory. -/
def findFile (fs : FileSystem) (directory stem tag : Text) : Traced LoadError (Option Text) := do
  let path := Path.join directory (fileName stem tag)
  if ← .ask (.present path) ((fs.present path).mapError .file) then
    return some path
  else if tag.length ≠ 2 then
    return none
  else
    let names ← .ask (.list directory) ((fs.list directory).mapError .file)
    match least? (names.filter (isVariant stem tag)) with
    | none => return none
    | some name =>
      .log (.standIn tag stem name)
      return some (Path.join directory name)

/-- The members of an object as entries, if each is a string or null. -/
def entries? : List (Text × Json) → Option Entries
  | [] => some []
  | (key, value) :: rest =>
    match value, entries? rest with
    | .string s, some entries => some ((key, some s) :: entries)
    | .null, some entries => some ((key, none) :: entries)
    | _, _ => none

variable [Platform]

/-- The entries in what was read from a file. -/
def parseFile (path : Text) (content : Except ReadError Text) : Traced LoadError Entries :=
  let unreadable (reason : Malformation) : Traced LoadError Entries := do
    .log (.unreadable path reason)
    .fail (.malformed path reason)
  match content with
  | .error (.file e) => .fail (.file e)
  | .error (.undecodable failure) => unreadable (.undecodable failure)
  | .ok text =>
    match Json.read text with
    | .error (.malformed fault position) => unreadable (.unparsable fault position)
    | .error (.numeralTooLong digits) => .fail (.numeralTooLong digits)
    | .error (.tooDeep container) => .fail (.tooDeep container)
    | .ok (.object members) =>
      match entries? members with
      | some entries => pure entries
      | none => do
        .log (.notTexts path)
        .fail (.malformed path .notTexts)
    | .ok _ => do
      .log (.notObject path)
      .fail (.malformed path .notObject)

/-- Read the file at a path. -/
def readFile (fs : FileSystem) (path : Text) : Traced LoadError Entries := do
  let content ← .ask (.read path) (.ok (fs.read path))
  parseFile path content

/-- Merge the layer of one tag into the layers below it. -/
def Layout.mergeLayer (l : Layout) (fs : FileSystem) (source : Text) (below : Entries)
    (tag : Text) : Traced LoadError Entries := do
  let directory := l.directory source
  if ← .ask (.present directory) ((fs.present directory).mapError .file) then
    match ← findFile fs directory (stem source) tag with
    | none => return below
    | some path =>
      let entries ← readFile fs path
      .log (.merging entries.length path)
      return below.merge entries
  else
    return below

/-- Merge the layers of some tags in order. -/
def Layout.mergeLayers (l : Layout) (fs : FileSystem) (source : Text) (below : Entries) :
    List Text → Traced LoadError Entries
  | [] => pure below
  | tag :: rest => do
    let below ← l.mergeLayer fs source below tag
    l.mergeLayers fs source below rest

/-- The entries of a source for a locale. -/
def Layout.resolve (l : Layout) (fs : FileSystem) (source locale : Text) :
    Traced LoadError Entries :=
  l.mergeLayers fs source [] (l.tags locale)

end Phrasebook.Resources
