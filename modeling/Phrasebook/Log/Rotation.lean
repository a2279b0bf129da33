import Phrasebook.Files.Tree

/-!
# Log files that are full

A log file is full once a line would bring it to ten megabytes. Then the full file and its backups
move on by one name each, the oldest backup is given up for the one before it, and the file begins
anew. A directory is never given up for a file: if one stands in the way, the moves end there and
the line is lost.
-/

namespace Phrasebook.Log

/-- The number of bytes at which a file is full. -/
def maxBytes : Nat := 10 * 1024 * 1024

/-- How many backups of a file are kept. -/
def backupCount : Nat := 5

/-- The name of a backup of a file by its number. The file itself has the number zero. -/
def backup (name : Text) : Nat → Text
  | 0 => name
  | n + 1 => name ++ '.' :: Text.ofNat (n + 1)

/-- Whether a line makes a file full. It is counted in characters, and the file in bytes. -/
def isFull (content line : Text) : Bool :=
  maxBytes ≤ Tree.bytes content + line.length

/-- Move what has one name in a directory to another name, in place of the file there. The result
is nothing if a directory is there. -/
def shift (files : Tree Text) (directory : List Text) (source target : Text) :
    Option (Tree Text) :=
  match files.node? (directory ++ [source]), files.node? (directory ++ [target]) with
  | none, _ => some files
  | some _, some .directory => none
  | some _, _ =>
    some ((files.remove (directory ++ [target])).move (directory ++ [source])
      (directory ++ [target]))

/-- Move a file and its backups on by one, in the order of the numbers. The result is whether all
of them were moved, and the files. -/
def shiftAll (directory : List Text) (name : Text) : List Nat → Tree Text → Bool × Tree Text
  | [], files => (true, files)
  | n :: rest, files =>
    match shift files directory (backup name n) (backup name (n + 1)) with
    | none => (false, files)
    | some files => shiftAll directory name rest files

/-- Begin a file anew, with what it held in its first backup. The result is whether that was done,
and the files. -/
def rollOver (files : Tree Text) (parts : List Text) : Bool × Tree Text :=
  match shiftAll parts.dropLast (parts.getLast?.getD []) (List.range backupCount).reverse files with
  | (true, files) => (true, files.putFile parts [])
  | failed => failed

/-- Make room for a line in the file at a place. The result is whether there is room, and the
files. -/
def makeRoom (files : Tree Text) (place : Tree.Place) (line : Text) : Bool × Tree Text :=
  match place with
  | .outside => (true, files)
  | .inside parts =>
    match files.fileAt? place with
    | none => (true, files)
    | some content => if isFull content line then rollOver files parts else (true, files)

/-- Add a line to the file at a place, if it is there. -/
def appendLine (files : Tree Text) (place : Tree.Place) (line : Text) : Tree Text :=
  match place with
  | .outside => files
  | .inside parts =>
    match files.fileAt? place with
    | none => files
    | some content => files.putFile parts (content ++ line)

end Phrasebook.Log
