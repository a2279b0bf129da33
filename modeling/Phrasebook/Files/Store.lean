import Phrasebook.Files.Flat
import Phrasebook.Files.Tree

/-!
# Stores of files

Files are kept flat, under exact names, or in a tree. Either way they can be written,
deleted and asked.
-/

namespace Phrasebook

/-- A store of files. -/
inductive FileStore
  | flat (files : Flat)
  | tree (files : Tree (List UInt8))

namespace FileStore

/-- The answers of a store. -/
def fileSystem : FileStore → FileSystem
  | .flat files => files.fileSystem
  | .tree files => files.fileSystem

/-- Write a file. -/
def write (path : Text) (bytes : List UInt8) : FileStore → FileStore
  | .flat files => .flat (files.write path bytes)
  | .tree files => .tree (files.write path bytes)

/-- Delete a file. -/
def delete (path : Text) : FileStore → FileStore
  | .flat files => .flat (files.delete path)
  | .tree files => .tree (files.delete path)

/-- Make a directory, and in a tree every one on the way to it. -/
def makeDirectory (path : Text) : FileStore → FileStore
  | .flat files => .flat (files.makeDirectory path)
  | .tree files => .tree (files.makeDirectories path)

end FileStore

end Phrasebook
