import Phrasebook.Text.Basic

/-!
# Paths

Paths are texts whose parts are separated by slashes. The functions here work on the text
alone: the directory and the last part of a path, joining, the stem of a file name, and the
normal form in which a tree of files is addressed.
-/

namespace Phrasebook.Path

/-- A path with every backslash turned into a slash. -/
def slashed (path : Text) : Text :=
  path.map fun c => if c = '\\' then '/' else c

/-- Whether a character ends a part of a path. -/
def isSlash (c : Char) : Bool :=
  c == '/'

/-- The last part of a path: what stands behind the last slash. -/
def basename (path : Text) : Text :=
  (path.reverse.takeWhile (!isSlash ·)).reverse

/-- A path up to and with its last slash. -/
def uptoSlash (path : Text) : Text :=
  (path.reverse.dropWhile (!isSlash ·)).reverse

/-- The directory of a path: what stands before the last slash, without slashes at its end
unless it holds nothing else. -/
def dirname (path : Text) : Text :=
  let head := uptoSlash path
  if head.all isSlash then head else (head.reverse.dropWhile isSlash).reverse

/-- Put `b` inside the directory `a`. A path that starts at the root stays as it is. -/
def join (a b : Text) : Text :=
  if b.head? = some '/' then b
  else if a.isEmpty || a.getLast? == some '/' then a ++ b
  else a ++ '/' :: b

/-- A file name without its last extension. A name that has nothing but dots before its last
dot has no extension. -/
def stem (name : Text) : Text :=
  match name.reverse.dropWhile (· != '.') with
  | [] => name
  | _ :: front => if front.all (· == '.') then name else front.reverse

/-- The parts of a path that lead somewhere else: neither empty nor a single dot. -/
def parts (path : Text) : List Text :=
  (Text.splitOn '/' path).filter fun part => !part.isEmpty && part != ['.']

/-- The root that a path starts from: none, one slash, or two if it has exactly two. -/
def root (path : Text) : Text :=
  match path.takeWhile isSlash with
  | [] => []
  | [_, _] => ['/', '/']
  | _ => ['/']

/-- The normal form of a path: empty parts and single dots are dropped. -/
def normal (path : Text) : Text :=
  match root path ++ Text.join ['/'] (parts path) with
  | [] => ['.']
  | path => path

@[simp] theorem slashed_slashed (path : Text) : slashed (slashed path) = slashed path := by
  simp only [slashed, List.map_map]
  congr 1
  funext c
  by_cases h : c = '\\' <;> simp [h]

theorem uptoSlash_append_basename (path : Text) : uptoSlash path ++ basename path = path := by
  rw [uptoSlash, basename, ← List.reverse_append, List.takeWhile_append_dropWhile,
    List.reverse_reverse]

end Phrasebook.Path
