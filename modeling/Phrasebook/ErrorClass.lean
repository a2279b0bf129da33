import Phrasebook.Error

/-!
# Classes of errors

The errors that a caller can raise and catch by class. Every class is a locale error; most
of them are also an error of a general kind, so that a caller who knows nothing of locales
can catch them.
-/

namespace Phrasebook

/-- A class of errors. -/
inductive ErrorClass
  | locale
  | context
  | malformed
  | notFound
  | readOnly
deriving DecidableEq

/-- A kind of error that a class may belong to. -/
inductive ErrorKind
  | locale
  | value
  | lookup
  | key
  | attribute
deriving DecidableEq

/-- An error of a class: its text, and the path or the key that it carries. -/
structure RaisedError where
  text : Text
  path : Option Text
  key : Option Text

/-- A class was given other than the arguments it takes: the class, the names of the
arguments that it takes, and the number that it was given. -/
structure ArgumentMismatch where
  className : Text
  takes : List Text
  given : Nat

namespace ArgumentMismatch

/-- Names in quotes, with the word `and` before the last one. -/
def nameList : List Text → Text
  | [] => []
  | [name] => Text.quoted name
  | [name, last] => Text.quoted name ++ " and ".toList ++ Text.quoted last
  | name :: rest => Text.quoted name ++ ", ".toList ++ nameList rest

/-- The message for arguments that are missing or too many. An error itself counts as one
of the arguments that it takes. -/
def message (m : ArgumentMismatch) : Text :=
  m.className ++ ".__init__() ".toList ++
    if m.given < m.takes.length then
      let missing := m.takes.drop m.given
      "missing ".toList ++ Text.ofNat missing.length ++ " required positional argument".toList ++
        (if missing.length = 1 then [] else ['s']) ++ ": ".toList ++ nameList missing
    else
      "takes ".toList ++ Text.ofNat (m.takes.length + 1) ++ " positional arguments but ".toList ++
        Text.ofNat (m.given + 1) ++ " were given".toList

end ArgumentMismatch

namespace ErrorClass

/-- The kinds that a class belongs to. -/
def kinds : ErrorClass → List ErrorKind
  | .locale | .context => [.locale]
  | .malformed => [.locale, .value]
  | .notFound => [.locale, .lookup, .key]
  | .readOnly => [.locale, .attribute]

/-- The name of a class. -/
def name : ErrorClass → Text
  | .locale => "LocaleError".toList
  | .context => "LocaleContextError".toList
  | .malformed => "MalformedResourceError".toList
  | .notFound => "ResourceNotFoundError".toList
  | .readOnly => "ReadOnlyLocaleError".toList

/-- The names of the arguments that a class takes, if it does not take any arguments. -/
def takes? : ErrorClass → Option (List Text)
  | .malformed => some ["path".toList, "reason".toList]
  | .notFound => some ["key".toList]
  | _ => none

/-- The text of an error that was given nothing but arguments. -/
def argumentsText : List Text → Text
  | [] => []
  | [text] => text
  | texts => (Value.tuple (texts.map .text)).plain

/-- An error of a class from its arguments. A malformed resource takes a path and a reason
and a missing one a key; the others take any arguments. -/
def raise (c : ErrorClass) (arguments : List Text) : Except ArgumentMismatch RaisedError :=
  match c, arguments with
  | .malformed, [path, reason] =>
    .ok ⟨Resources.malformedMessage path reason, some path, none⟩
  | .notFound, [key] => .ok ⟨Error.notFoundMessage key, none, some key⟩
  | c, arguments =>
    match c.takes? with
    | some takes => .error ⟨c.name, takes, arguments.length⟩
    | none => .ok ⟨argumentsText arguments, none, none⟩

end ErrorClass

end Phrasebook
