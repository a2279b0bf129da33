import Phrasebook.Text.Quoted
import Phrasebook.Text.Utf8

/-!
# Files

What a resource loader needs from files: whether a path is there, the names in a directory,
and the text of a file. A file system is given by its answers to these three questions; each
may be an error, and reading may also find bytes that are no text.
-/

namespace Phrasebook

/-- An error of the file system about a path. -/
inductive FileError
  | notFound (path : Text)
  | alreadyThere (path : Text)
  | notDirectory (path : Text)
  | isDirectory (path : Text)
  | nameTooLong (path : Text)
  /-- The path has a null character, which no file name has. -/
  | nullCharacter
deriving DecidableEq

/-- The message of an error about a path: its number and words, and the path. -/
def FileError.about (words : String) (path : Text) : Text :=
  words.toList ++ ": ".toList ++ Text.quoted path

/-- The message of an error. -/
def FileError.message : FileError → Text
  | .notFound path => about "[Errno 2] No such file or directory" path
  | .alreadyThere path => about "[Errno 17] File exists" path
  | .notDirectory path => about "[Errno 20] Not a directory" path
  | .isDirectory path => about "[Errno 21] Is a directory" path
  | .nameTooLong path => about "[Errno 36] File name too long" path
  | .nullCharacter => "embedded null byte".toList

/-- Why a file has no text. -/
inductive ReadError
  | file (e : FileError)
  | undecodable (e : Text.Utf8.Failure)
deriving DecidableEq

/-- A file system, by its answers. -/
structure FileSystem where
  /-- Whether there is a file or directory. -/
  present : Text → Except FileError Bool
  /-- The names in a directory. -/
  list : Text → Except FileError (List Text)
  /-- The text of a file. -/
  read : Text → Except ReadError Text

/-- A question put to a file system. -/
inductive FileCall
  | present (path : Text)
  | list (path : Text)
  | read (path : Text)
deriving DecidableEq

/-- The text of bytes, or why they have none. -/
def decodeText (bytes : List UInt8) : Except ReadError Text :=
  (Text.Utf8.decode bytes).mapError .undecodable

end Phrasebook
