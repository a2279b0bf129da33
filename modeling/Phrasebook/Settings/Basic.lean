import Phrasebook.Template.Error
import Phrasebook.Text.Case
import Phrasebook.Value.Text

/-!
# Settings

What a program can be told about locales, resources and logging, and what it demands of the values
that it is told. The languages that are written from right to left may be given as a text with
commas or as a row of anything; a base language has two characters.
-/

namespace Phrasebook

/-- What a program can be told about locales, resources and logging. -/
structure Settings where
  defaultLocale : Text
  baseLang : Text
  resourcesDirname : Text
  rtlLangs : List Text
  logLevel : Text
  logFile : Bool

namespace Settings

/-- The settings where nothing is set. -/
def default : Settings where
  defaultLocale := "en-US".toList
  baseLang := "en".toList
  resourcesDirname := "resources".toList
  rtlLangs := ["ar".toList, "iw".toList]
  logLevel := "INFO".toList
  logFile := false

/-- A field of the settings. -/
inductive Field
  | defaultLocale
  | baseLang
  | resourcesDirname
  | rtlLangs
  | logLevel
  | logFile
deriving DecidableEq

/-- The name of a field. -/
def Field.name : Field → Text
  | .defaultLocale => "DEFAULT_LOCALE".toList
  | .baseLang => "BASE_LANG".toList
  | .resourcesDirname => "RESOURCES_DIRNAME".toList
  | .rtlLangs => "RTL_LANGS".toList
  | .logLevel => "LOG_LEVEL".toList
  | .logFile => "LOG_FILE".toList

/-- What goes wrong where languages are read. -/
inductive Raised
  /-- The value is at fault, for the reason that the message gives. -/
  | badValue (message : Text)
  /-- A row was expected and the value is of a kind that has no items. -/
  | notIterable (kind : Text)

/-- The message of what went wrong. -/
def Raised.message : Raised → Text
  | .badValue message => message
  | .notIterable kind => Text.quoted kind ++ " object is not iterable".toList

/-- The languages in a text with commas: without blanks around them, without empty ones, in
lower case. -/
def languagesOfText (s : Text) : List Text :=
  ((Text.splitOn ',' s).map (Text.trim Text.isBlank)).filter (!·.isEmpty) |>.map Text.lower

/-- The items of a value that is a row of some kind: the keys of a mapping, the numbers of bytes. -/
def items? : Value → Option (List Value)
  | .list items | .tuple items => some items
  | .mapping entries => some (entries.map fun (key, _) => .text key)
  | .bytes bytes => some (bytes.map fun b => .integer b.toNat)
  | _ => none

/-- The languages in a value: none for null, the items of a text with commas, and otherwise
the text of each item in lower case. -/
def readLanguages : Value → Except Raised (List Text)
  | .null => .ok []
  | .text s => .ok (languagesOfText s)
  | v =>
    match items? v with
    | none => .error (.notIterable v.kind)
    | some items =>
      if items.all Value.hasText then .ok (items.map fun item => Text.lower item.plain)
      else .error (.badValue integerTooLongMessage)

/-- A base language has two characters. Otherwise there is a message. -/
def checkBaseLang (s : Text) : Except Text Text :=
  if s.length = 2 then .ok s else .error "BASE_LANG must be a 2-letter language code".toList

end Settings

end Phrasebook
