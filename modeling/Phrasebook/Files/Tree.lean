import Phrasebook.Dict
import Phrasebook.Files.Basic
import Phrasebook.Path

/-!
# Trees of files

A tree of directories below a working directory. A path is walked part by part: each part
but the last must lead into a directory, and `..` leads out of one. Above the working
directory nothing is known, so it holds nothing but itself. Paths and their parts can only be
so long, and have no null characters.
-/

namespace Phrasebook

/-- What stands at a place in a tree. -/
inductive Node (α : Type)
  | directory
  | file (content : α)

/-- The nodes below a working directory, by the parts that lead to them. -/
structure Tree (α : Type) where
  nodes : Dict (List Text) (Node α)

namespace Tree

variable {α : Type}

/-- The tree of an empty working directory. -/
def empty : Tree α := ⟨[]⟩

/-- Where a walk has led: to a place below the working directory, or out of it. -/
inductive Place
  | inside (parts : List Text)
  | outside
deriving DecidableEq

/-- What stops a walk. -/
inductive Obstacle
  | missing
  | notDirectory
  | nameTooLong
  | nullCharacter
deriving DecidableEq

/-- The obstacle as an error about a path. -/
def Obstacle.toError (path : Text) : Obstacle → FileError
  | .missing => .notFound path
  | .notDirectory => .notDirectory path
  | .nameTooLong => .nameTooLong path
  | .nullCharacter => .nullCharacter

/-- The number of bytes that a name takes up. -/
def bytes (name : Text) : Nat :=
  name.foldl (fun n c => n + c.utf8Size) 0

/-- The most bytes that a part of a path can take up. -/
def maxPartBytes : Nat := 255

/-- The most bytes that a path can take up. -/
def maxPathBytes : Nat := 4095

/-- The node at some parts. The working directory itself is always there. -/
def node? (t : Tree α) (parts : List Text) : Option (Node α) :=
  if parts.isEmpty then some .directory else t.nodes.get? parts

/-- The part that leads out of a directory. -/
def parent : Text := ['.', '.']

/-- One step of a walk. -/
def enter (t : Tree α) (place : Place) (part : Text) : Except Obstacle Place :=
  match place with
  | .outside =>
    if part = parent then .ok .outside
    else if maxPartBytes < bytes part then .error .nameTooLong
    else .error .missing
  | .inside parts =>
    match t.node? parts with
    | none => .error .missing
    | some (.file _) => .error .notDirectory
    | some .directory =>
      if part = parent then
        .ok (if parts.isEmpty then .outside else .inside parts.dropLast)
      else if maxPartBytes < bytes part then .error .nameTooLong
      else if (t.node? (parts ++ [part])).isSome then .ok (.inside (parts ++ [part]))
      else .error .missing

/-- A walk along parts. -/
def walk (t : Tree α) (place : Place) : List Text → Except Obstacle Place
  | [] => .ok place
  | part :: rest =>
    match t.enter place part with
    | .error obstacle => .error obstacle
    | .ok place => t.walk place rest

/-- Where the walk along a path starts. -/
def start (path : Text) : Place :=
  if (Path.root path).isEmpty then .inside [] else .outside

/-- The place that a part leads to, whatever is there. -/
def Place.follow : Place → Text → Place
  | .outside, _ => .outside
  | .inside parts, part =>
    if part = parent then if parts.isEmpty then .outside else .inside parts.dropLast
    else .inside (parts ++ [part])

/-- The place that a path names, whatever is there. -/
def place (path : Text) : Place :=
  (Path.parts path).foldl Place.follow (start path)

/-- The place of a path. -/
def locate (t : Tree α) (path : Text) : Except Obstacle Place :=
  if path.contains (Char.ofNat 0) then .error .nullCharacter
  else if maxPathBytes < bytes (Path.normal path) then .error .nameTooLong
  else t.walk (start path) (Path.parts path)

/-- Whether something is at a path. A path that is too long cannot even be asked for. -/
def present (t : Tree α) (path : Text) : Except FileError Bool :=
  match t.locate path with
  | .ok _ => .ok true
  | .error .nameTooLong => .error (.nameTooLong (Path.normal path))
  | .error _ => .ok false

/-- The names of the nodes directly inside a directory. -/
def children (t : Tree α) (directory : List Text) : List Text :=
  t.nodes.filterMap fun (parts, _) =>
    if parts.dropLast = directory then parts.getLast? else none

/-- The names in the directory at a path. -/
def list (t : Tree α) (path : Text) : Except FileError (List Text) :=
  match t.locate path with
  | .error obstacle => .error (obstacle.toError (Path.normal path))
  | .ok .outside => .ok []
  | .ok (.inside parts) =>
    match t.node? parts with
    | some (.file _) => .error (.notDirectory (Path.normal path))
    | _ => .ok (t.children parts)

/-- The content of the file at a path. -/
def content (t : Tree α) (path : Text) : Except FileError α :=
  match t.locate path with
  | .error obstacle => .error (obstacle.toError (Path.normal path))
  | .ok .outside => .error (.isDirectory (Path.normal path))
  | .ok (.inside parts) =>
    match t.node? parts with
    | some (.file content) => .ok content
    | _ => .error (.isDirectory (Path.normal path))

/-- Make one directory inside a directory that is there. A directory that is there already
is left as it is. -/
def makeDirectory (t : Tree α) (path : Text) : Except FileError (Tree α) :=
  match t.locate path with
  | .ok (.inside parts) =>
    match t.node? parts with
    | some (.file _) => .error (.alreadyThere (Path.normal path))
    | _ => .ok t
  | .ok .outside => .ok t
  | .error obstacle =>
    let parts := Path.parts path
    match obstacle, t.walk (start path) parts.dropLast, parts.getLast? with
    | .missing, .ok (.inside directory), some name =>
      .ok ⟨t.nodes.put (directory ++ [name]) .directory⟩
    | obstacle, _, _ => .error (obstacle.toError (Path.normal path))

/-- Walk along parts and make the directories that are missing on the way. -/
def makeWay (t : Tree α) (place : Place) : List Text → Tree α × Place
  | [] => (t, place)
  | part :: rest =>
    match t.enter place part, place with
    | .ok place, _ => t.makeWay place rest
    | .error .missing, .inside parts =>
      makeWay ⟨t.nodes.put (parts ++ [part]) .directory⟩ (.inside (parts ++ [part])) rest
    | .error _, _ => (t, .outside)

/-- Make a directory and every one on the way to it. -/
def makeDirectories (t : Tree α) (path : Text) : Tree α :=
  (t.makeWay (start path) (Path.parts path)).1

/-- Write a file; the directories on the way to it are made. -/
def write (t : Tree α) (path : Text) (content : α) : Tree α :=
  let parts := Path.parts path
  match t.makeWay (start path) parts.dropLast, parts.getLast? with
  | (t, .inside directory), some name => ⟨t.nodes.put (directory ++ [name]) (.file content)⟩
  | (t, _), _ => t

/-- The content of the file at a place. -/
def fileAt? (t : Tree α) : Place → Option α
  | .outside => none
  | .inside parts =>
    match t.node? parts with
    | some (.file content) => some content
    | _ => none

/-- Give the file at some parts a content. -/
def putFile (t : Tree α) (parts : List Text) (content : α) : Tree α :=
  ⟨t.nodes.put parts (.file content)⟩

/-- Take the node at some parts away. -/
def remove (t : Tree α) (parts : List Text) : Tree α :=
  ⟨t.nodes.filter (·.1 != parts)⟩

/-- Where parts lead once what stands at `source` has been moved to `target`. -/
def moved (source target parts : List Text) : List Text :=
  if source.isPrefixOf parts then target ++ parts.drop source.length else parts

/-- Move a node, and all that is inside it, to where there is nothing. -/
def move (t : Tree α) (source target : List Text) : Tree α :=
  ⟨t.nodes.map fun (parts, node) => (moved source target parts, node)⟩

/-- Delete a file. -/
def delete (t : Tree α) (path : Text) : Tree α :=
  match t.locate path with
  | .ok (.inside parts) => t.remove parts
  | _ => t

/-- The answers of a tree of files of bytes. Reading turns every line end into a line
feed. -/
def fileSystem (t : Tree (List UInt8)) : FileSystem where
  present := t.present
  list := t.list
  read path :=
    match t.content path with
    | .error e => .error (.file e)
    | .ok bytes => (decodeText bytes).map Text.withLineFeeds

end Tree

end Phrasebook
