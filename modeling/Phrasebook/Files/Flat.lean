import Phrasebook.Dict
import Phrasebook.Files.Basic

/-!
# Flat file stores

A store of files under exact names: a path is never normalised, and two spellings are two
paths. Directories are those that were made and every part of a known path that ends just
before a slash.
-/

namespace Phrasebook

/-- Files by their paths, and the directories that were made. -/
structure Flat where
  files : Dict Text (List UInt8)
  directories : List Text

namespace Flat

/-- The store without files. -/
def empty : Flat := ⟨[], []⟩

/-- The paths of all files and made directories. -/
def paths (s : Flat) : List Text :=
  s.files.map Prod.fst ++ s.directories

/-- What stands in a path behind a directory and the slash after it. -/
def inside? (directory path : Text) : Option Text :=
  Text.dropBeginning? (directory ++ ['/']) path

/-- Whether a path is a directory. -/
def isDirectory (s : Flat) (path : Text) : Bool :=
  s.directories.contains path || s.paths.any fun p => (inside? path p).isSome

/-- Whether a path is a file or a directory. -/
def present (s : Flat) (path : Text) : Bool :=
  (s.files.get? path).isSome || s.isDirectory path

/-- The names directly inside a directory. -/
def names (s : Flat) (directory : Text) : List Text :=
  (s.paths.filterMap fun p => (inside? directory p).map (Text.before '/')).eraseDups

/-- The answers of a flat store. -/
def fileSystem (s : Flat) : FileSystem where
  present path := .ok (s.present path)
  list path :=
    if (s.files.get? path).isSome then .error (.notDirectory path)
    else if s.isDirectory path then .ok (s.names path)
    else .error (.notFound path)
  read path :=
    match s.files.get? path with
    | some bytes => decodeText bytes
    | none =>
      if s.isDirectory path then .error (.file (.isDirectory path))
      else .error (.file (.notFound path))

/-- Write a file. -/
def write (s : Flat) (path : Text) (bytes : List UInt8) : Flat :=
  { s with files := s.files.put path bytes }

/-- Delete a file. -/
def delete (s : Flat) (path : Text) : Flat :=
  { s with files := s.files.filter (·.1 != path) }

/-- Make a directory. -/
def makeDirectory (s : Flat) (path : Text) : Flat :=
  { s with directories := s.directories ++ [path] }

end Flat

end Phrasebook
