import Phrasebook.Error
import Phrasebook.Json.Writer
import Phrasebook.Locale.Code
import Phrasebook.Locale.Context
import Phrasebook.Resources.Store
import Phrasebook.Template.Render
import Phrasebook.Value.Key

/-!
# The localizer

Texts for the locale of a request. The current locale is that of the bound context, or a
default one; a lookup names its locale or follows the current one. Locales come from callers
as values, and only a text can be resolved. Every operation sees the
files and the context and changes nothing but the store of resolved resources.
-/

namespace Phrasebook.Locale

open Resources (Bundle Entries Loader MappingId Store)

/-- What is called after every switch of the locale. -/
inductive Hook
  /-- Only takes note of the switch. -/
  | records
  /-- Takes note of the switch and then fails. -/
  | fails
deriving DecidableEq

/-- Where a localizer loads from, and what it falls back on. -/
structure Localizer where
  loader : Loader
  defaultLocale : Value
  rtlLangs : List Text

/-- An operation on the store of resolved resources. -/
def Lookup (α : Type) := Store → Traced Error α × Store

namespace Lookup

variable [Platform] {α β : Type}

/-- Go on with the result, unless it is an error. -/
def bind (x : Lookup α) (f : α → Lookup β) : Lookup β := fun s =>
  match x s with
  | (⟨.error e, journal⟩, s) => (⟨.error e, journal⟩, s)
  | (⟨.ok a, journal⟩, s) => (⟨(f a s).1.result, journal ++ (f a s).1.journal⟩, (f a s).2)

instance : Monad Lookup where
  pure a := fun s => (.of (.ok a), s)
  bind := bind

/-- An answer for which nothing has to be looked up. -/
def ofExcept (result : Except Error α) : Lookup α := fun s =>
  (.of result, s)

/-- The entries of a mapping. -/
def entries (id : MappingId) : Lookup Entries := fun s =>
  (.of (.ok (s.entries id)), s)

/-- Merge the layer that all locales build on, for a locale that is no text, and fail where its
beginning is asked for. A locale is declared to be a text: that bytes and tuples could be cut like
one is left out. -/
def loadBase (fs : FileSystem) (loader : Loader) (source : Text) (locale : Value) :
    Traced Error MappingId := do
  .log (.resolving source locale.plain)
  let base := loader.layout.mergeLayer fs source [] loader.layout.baseLang
  let _ ← base.mapError .load
  .fail (.notSliceable locale.kind)

/-- The mapping of a bundle. -/
def load (fs : FileSystem) (loader : Loader) (bundle : Bundle) (locale : Value) :
    Lookup MappingId := fun s =>
  match locale, bundle.precomputed with
  | .text locale, _ =>
    match s.load fs loader bundle locale with
    | (traced, s) => (traced.mapError .load, s)
  | _, some id => (.of (.ok id), s)
  | locale, none =>
    match locale.unusable? with
    | some kind => (.fail (.keyUnusable kind), s)
    | none => (loadBase fs loader bundle.source locale, s)

end Lookup

namespace Localizer

variable [Platform]

/-- The current locale: that of the context, unless it is missing or empty. -/
def current (l : Localizer) (context : Option RequestContext) : Value :=
  match context with
  | none => l.defaultLocale
  | some context => if context.locale.isEmpty then l.defaultLocale else context.locale

/-- Whether the language at the beginning of a locale is one of some languages. A locale that
is no text may have no beginning, or none that can be put into lower case. -/
def beginsWith (languages : List Text) : Value → Except Error Bool
  | .text locale => .ok (languages.contains (Text.lower (locale.take 2)))
  | .bytes _ => .ok false
  | .list items => .error (.noLowerCase (Value.list items).kind)
  | .tuple items => .error (.noLowerCase (Value.tuple items).kind)
  | .mapping _ => .error (.keyUnusable "slice".toList)
  | v => .error (.notSliceable v.kind)

/-- Whether the current locale is written from right to left. -/
def isRtl (l : Localizer) (context : Option RequestContext) : Except Error Bool :=
  beginsWith l.rtlLangs (l.current context)

/-- The preferences of the context. -/
def preferences (context : Option RequestContext) : Value :=
  match context with
  | none => .null
  | some context => context.preferences

/-- The locale that a lookup names, or the current one. -/
def chosen (l : Localizer) (context : Option RequestContext) (locale : Value) : Value :=
  if locale.isEmpty then l.current context else locale

/-- The text that entries hold for a key. -/
def textOf (entries : Entries) (key : Value) : Except Error Text :=
  match key with
  | .text name =>
    match entries.get? name with
    | some (some text) => .ok text
    | _ => .error (.notFound key)
  | key =>
    match key.unusable? with
    | some kind => .error (.keyUnusable kind)
    | none => .error (.notFound key)

/-- The text of a bundle for a key. -/
def lookup (l : Localizer) (fs : FileSystem) (context : Option RequestContext) (bundle : Bundle)
    (key locale : Value) : Lookup Text := do
  let id ← .load fs l.loader bundle (l.chosen context locale)
  let entries ← .entries id
  .ofExcept (textOf entries key)

/-- A filled template, or the error of filling it. -/
def filled (template : Text) (args : List Value) : Except Error Text :=
  (Template.format template args).mapError .format

/-- The text of a bundle for the key that comes first, filled with the other arguments. -/
def formatLocale (l : Localizer) (fs : FileSystem) (context : Option RequestContext)
    (locale : Value) (bundle : Bundle) : List Value → Lookup Text
  | [] => .ofExcept (.error .keyMissing)
  | key :: args => do
    let template ← l.lookup fs context bundle key locale
    .ofExcept (filled template args)

/-- The text of a bundle in the current locale. -/
def format (l : Localizer) (fs : FileSystem) (context : Option RequestContext) (bundle : Bundle)
    (args : List Value) : Lookup Text :=
  l.formatLocale fs context .null bundle args

/-- The texts of a key in some languages, by their long codes: those that differ from the
default text, and the English one. -/
def formatLanguages (l : Localizer) (fs : FileSystem) (context : Option RequestContext)
    (bundle : Bundle) (key : Value) (default : Text) :
    List (Text × Text) → Lookup (List (Text × Text))
  | [] => pure []
  | (language, code) :: rest => do
    let text ← l.formatLocale fs context (.text language) bundle [key]
    let others ← l.formatLanguages fs context bundle key default rest
    return if language = english ∨ text ≠ default then (code, text) :: others else others

/-- The name under which the text in the current locale is listed. -/
def defaultName : Text := "default".toList

/-- The text of a key in the current locale and in every known language. -/
def formatAll (l : Localizer) (fs : FileSystem) (context : Option RequestContext)
    (bundle : Bundle) (key : Value) : Lookup (List (Text × Text)) := do
  let default ← l.formatLocale fs context (l.current context) bundle [key]
  let others ← l.formatLanguages fs context bundle key default longCodes
  return (defaultName, default) :: others

/-- The locale that a client asks for: the entry before the first comma, with everything
after its third character in upper case. Nothing asked for is American English. -/
def clientTag (accept : Option Text) : Text :=
  let accept := accept.getD []
  let tag := Text.before ',' (if accept.isEmpty then "en-US".toList else accept)
  tag.take 3 ++ Text.upper (tag.drop 3)

/-- The resources of a source for a client, as JSON. -/
def payload (l : Localizer) (fs : FileSystem) (context : Option RequestContext) (source : Text)
    (accept : Option Text) : Lookup Text := do
  let id ← .load fs l.loader ⟨source, none⟩ (l.chosen context (.text (clientTag accept)))
  let entries ← .entries id
  return Json.write entries

end Localizer

end Phrasebook.Locale
