import Phrasebook.Resources.Error
import Phrasebook.Value.Text

/-!
# Errors

Everything that can go wrong when resources are looked up, templates are filled and the
locale is switched, with the message of each error.
-/

namespace Phrasebook

/-- Why an operation failed. -/
inductive Error
  | load (e : Resources.LoadError)
  | format (e : Template.FormatError)
  /-- A bundle was to be formatted without saying which key. -/
  | keyMissing
  /-- A key of a kind that no mapping can be asked for. -/
  | keyUnusable (kind : Text)
  | notFound (key : Value)
  /-- A locale of a kind that has no beginning. -/
  | notSliceable (kind : Text)
  /-- The beginning of a locale is of a kind without upper and lower case. -/
  | noLowerCase (kind : Text)
  /-- A path stands where a loader expects a bundle. -/
  | notBundle
  | noContext
  | readOnly (name : Text)
  /-- A mapping that was made by a load cannot be changed. -/
  | frozen
  | hookFailed (locale : Value)
  | tokenUsed
  /-- A step names something that was never kept. -/
  | unknownName (name : Text)

namespace Error

/-- The message for a key without a text. -/
def notFoundMessage (key : Text) : Text :=
  "resource ".toList ++ key ++ " not found".toList

/-- The message for a name that cannot be assigned. -/
def readOnlyMessage (name : Text) : Text :=
  "locale.".toList ++ name ++
    " is readonly. Use locale.set_current(value) to change the locale.".toList

/-- The message of an error. A used token has none. -/
def message : Error → Option Text
  | .load e => some e.message
  | .format e => some e.message
  | .keyMissing => some "tuple index out of range".toList
  | .keyUnusable kind => some ("unhashable type: ".toList ++ Text.quoted kind)
  | .notFound key => some (notFoundMessage key.plain)
  | .notSliceable kind => some (Text.quoted kind ++ " object is not subscriptable".toList)
  | .noLowerCase kind => some (Text.quoted kind ++ " object has no attribute 'lower'".toList)
  | .notBundle => some "'str' object has no attribute 'precomputed_resources'".toList
  | .noContext => some "cannot call locale.set_current without a request context".toList
  | .readOnly name => some (readOnlyMessage name)
  | .frozen => some "'mappingproxy' object does not support item assignment".toList
  | .hookFailed locale => some ("refresh failed for ".toList ++ locale.plain)
  | .tokenUsed => none
  | .unknownName name => some (Text.quoted name)

end Error

end Phrasebook
