import Phrasebook.Files.Basic
import Phrasebook.Json.Basic
import Phrasebook.Template.Error

/-!
# Errors of loading resources

A resource file is malformed if its bytes are no text, its text is no JSON, its value is no
object, or one of the values in it is neither a string nor null. Errors of the file system,
integers too long to convert and containers too deep inside others are not about the form of
the file and stay what they are.
-/

namespace Phrasebook.Resources

/-- Why a file holds no resources. -/
inductive Malformation
  | undecodable (failure : Text.Utf8.Failure)
  | unparsable (fault : Json.Fault) (position : Json.Position)
  | notObject
  | notTexts
deriving DecidableEq

/-- The words for what is wrong with a file. -/
def Malformation.reason : Malformation → Text
  | .undecodable failure => failure.message
  | .unparsable fault position => fault.message position
  | .notObject => "top-level value must be an object".toList
  | .notTexts => "values must be strings".toList

/-- Why a load failed. -/
inductive LoadError
  | file (e : FileError)
  | malformed (path : Text) (reason : Malformation)
  | numeralTooLong (digits : Nat)
  | tooDeep (container : Json.Container)
deriving DecidableEq

/-- The message for a malformed file. -/
def malformedMessage (path reason : Text) : Text :=
  "malformed resource file ".toList ++ path ++ ": ".toList ++ reason

/-- The message of an error. -/
def LoadError.message : LoadError → Text
  | .file e => e.message
  | .malformed path reason => malformedMessage path reason.reason
  | .numeralTooLong digits => numeralTooLongMessage digits
  | .tooDeep container => Json.tooDeepMessage container

end Phrasebook.Resources
