import Phrasebook.Text.Case
import Phrasebook.Text.Word

/-!
# Locale codes

A short code names a language, a long code a language and a region. A long code is any text
with two word characters, a hyphen and two word characters in a row; a short code has a long
one only if it is one of the known languages.
-/

namespace Phrasebook.Locale

/-- The known languages by their short codes, with the long code of each. -/
def longCodes : List (Text × Text) := [
  ("ar".toList, "ar-sa".toList),
  ("cz".toList, "cz-cz".toList),
  ("de".toList, "de-de".toList),
  ("en".toList, "en-us".toList),
  ("es".toList, "es-es".toList),
  ("fr".toList, "fr-fr".toList),
  ("it".toList, "it-it".toList),
  ("pl".toList, "pl-pl".toList),
  ("pt".toList, "pt-pt".toList),
  ("ru".toList, "ru-ru".toList),
  ("zh".toList, "zh-cn".toList)]

/-- English, whose text is listed among all languages even where it says nothing new. -/
def english : Text := "en".toList

/-- Whether a text starts with two word characters, a hyphen and two word characters. -/
def startsLong : Text → Bool
  | a :: b :: hyphen :: c :: d :: _ =>
    Text.isWord a && Text.isWord b && hyphen == '-' && Text.isWord c && Text.isWord d
  | _ => false

/-- Whether a text has such a row anywhere. -/
def isLong : Text → Bool
  | [] => false
  | c :: rest => startsLong (c :: rest) || isLong rest

/-- The long form of a code, in lower case. -/
def longCode? (code : Text) : Option Text :=
  if isLong code then some (Text.lower code) else longCodes.lookup (Text.lower code)

/-- The long form of a code that may be missing. -/
def longForm? : Option Text → Option Text
  | none => none
  | some code => longCode? code

/-- The last text that has a hyphen, or a given one if none has. -/
def lastHyphenated (default : Text) (tags : List Text) : Text :=
  tags.foldl (fun found tag => if tag.contains '-' then tag else found) default

/-- The locale that a header of accepted languages asks for: of the entry before the first
comma, the last part with a hyphen, or its first part. -/
def ofHeader (header : Option Text) : Text :=
  let tags := Text.splitOn ';' (Text.before ',' (header.getD []))
  lastHyphenated (tags.headD []) tags

end Phrasebook.Locale
