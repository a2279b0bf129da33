import Phrasebook.Files.Store
import Phrasebook.Session.Step

/-!
# Running a session

The state of a session and what each step does to it. A step that fails has changed only
what it had done before it failed, and the steps after it go on from there. Leaving a scope
brings back the binding from before it, whatever happened inside.
-/

namespace Phrasebook

open Phrasebook.Locale (Contexts Hook Localizer Lookup RequestContext Token)
open Resources (Bundle BundleKey Loader MappingId Store)

/-- An accessor that was kept: a loader, a bundle, and the locale of each call. What was given
for the bundle may turn out at a call to be none. -/
structure Accessor where
  loader : Loader
  bundle : Except Error Bundle
  locale : Session.LocaleSource

/-- The state of a session. -/
structure Session where
  files : FileStore
  store : Store
  contexts : Contexts
  localizer : Localizer
  hook : Option Hook
  hookCalls : List (Value × Value)
  loaders : Dict Text Loader
  bundles : Dict Text Bundle
  tokens : Dict Text Token
  accessors : Dict Text Accessor
  vars : Dict Text Value
  /-- The mappings that have been seen, in the order in which they first were. -/
  seen : List MappingId

namespace Session

variable [Platform]

/-- The context that is bound. -/
def context? (s : Session) : Option RequestContext :=
  s.contexts.current?

/-- The current locale. -/
def current (s : Session) : Value :=
  s.localizer.current s.context?

/-- What one operation does: a traced answer, and the session after it. -/
abbrev Effect := Traced Error Answer × Session

/-- An answer for which nothing had to be done. -/
def answer (a : Answer) (s : Session) : Effect :=
  (.of (.ok a), s)

/-- An error before anything was done. -/
def refuse (e : Error) (s : Session) : Effect :=
  (.fail e, s)

/-- The loader of a name, or the first one. -/
def loader (s : Session) : Option Text → Except Error Loader
  | none => .ok s.localizer.loader
  | some name =>
    match s.loaders.get? name with
    | some loader => .ok loader
    | none => .error (.unknownName name)

/-- The bundle that is meant. -/
def bundle (s : Session) : BundleRef → Except Error Bundle
  | .source path | .path path => .ok ⟨path, none⟩
  | .named name =>
    match s.bundles.get? name with
    | some bundle => .ok bundle
    | none => .error (.unknownName name)

/-- The bundle that a loader is given, which cannot be a path alone. -/
def described (s : Session) : BundleRef → Except Error Bundle
  | .path _ => .error .notBundle
  | ref => s.bundle ref

/-- Go on with a value, unless there is none. -/
def given {α : Type} (x : Except Error α) (s : Session) (f : α → Effect) : Effect :=
  match x with
  | .error e => refuse e s
  | .ok a => f a

/-- Do something with the store of resolved resources. -/
def withStore {α : Type} (s : Session) (x : Lookup α) (f : α → Session → Answer × Session) :
    Effect :=
  match x s.store with
  | (⟨.error e, journal⟩, store) => (⟨.error e, journal⟩, { s with store })
  | (⟨.ok a, journal⟩, store) =>
    let (answer, s) := f a { s with store }
    (⟨.ok answer, journal⟩, s)

/-- The view of a mapping. A mapping that is seen for the first time gets the next number. -/
def view (id : MappingId) (s : Session) : Answer × Session :=
  let s := if s.seen.contains id then s else { s with seen := s.seen ++ [id] }
  (.view ⟨s.seen.idxOf id, s.store.entries id⟩, s)

/-- Load a bundle and show its mapping. -/
def load (s : Session) (loader : Loader) (bundle : Bundle) (locale : Value) : Effect :=
  s.withStore (.load s.files.fileSystem loader bundle locale) view

/-- The locale of an accessor at a call. -/
def localeOf (s : Session) : LocaleSource → Except Error Value
  | .fixed locale => .ok locale
  | .current => .ok s.current
  | .variable name =>
    match s.vars.get? name with
    | some value => .ok value
    | none => .error (.unknownName name)

/-- The attributes of the localizer that follow the context and cannot be assigned. -/
def readOnlyNames : List Text :=
  ["current".toList, "is_rtl".toList, "preferences".toList]

/-- The attribute that holds the default locale. -/
def defaultLocaleName : Text := "default_locale".toList

/-- Assign an attribute of the localizer. Unknown names have no effect. -/
def assign (s : Session) (name : Text) (value : Value) : Effect :=
  if readOnlyNames.contains name then refuse (.readOnly name) s
  else if name = defaultLocaleName then
    answer .nothing { s with localizer := { s.localizer with defaultLocale := value } }
  else answer .nothing s

/-- Call the hook after a switch. -/
def callHook (s : Session) (locale : Value) : Except Error Answer × Session :=
  match s.hook with
  | none => (.ok .nothing, s)
  | some hook =>
    let s := { s with hookCalls := s.hookCalls ++ [(locale, s.current)] }
    match hook with
    | .records => (.ok .nothing, s)
    | .fails => (.error (.hookFailed locale), s)

/-- Switch the locale of the context that is bound. -/
def switch (s : Session) (locale preferences : Value) : Effect :=
  match s.contexts.switch? locale preferences with
  | none => refuse .noContext s
  | some contexts =>
    let (result, s) := { s with contexts }.callHook locale
    (⟨result, ⟨[], [.switched locale.plain]⟩⟩, s)

/-- Bring back the binding of a kept token, unless it has been used. -/
def reset (s : Session) (name : Text) : Effect :=
  match s.tokens.get? name with
  | none => refuse (.unknownName name) s
  | some token =>
    if token.used then refuse .tokenUsed s
    else
      answer .nothing { s with
        contexts := s.contexts.restore token.previous
        tokens := s.tokens.put name { token with used := true } }

/-- Format a template or a bundle. -/
def format (s : Session) (locale : Value) (source : Source) (args : List Value) : Effect :=
  match source with
  | .template text =>
    given (Localizer.filled text args) s fun text => answer (.text text) s
  | .bundle ref =>
    given (s.bundle ref) s fun bundle =>
      s.withStore (s.localizer.formatLocale s.files.fileSystem s.context? locale bundle args)
        fun text s => (.text text, s)

/-- Give a key of a mapping a text and show the mapping. -/
def assignItem (s : Session) (loader : Loader) (bundle : Bundle) (locale : Value) (key : Text)
    (text : Option Text) : Effect :=
  match Lookup.load s.files.fileSystem loader bundle locale s.store with
  | (⟨.error e, journal⟩, store) => (⟨.error e, journal⟩, { s with store })
  | (⟨.ok id, journal⟩, store) =>
    match store.assign? id key text with
    | none => (⟨.error .frozen, journal⟩, { s with store })
    | some store =>
      let (answer, s) := view id { s with store }
      (⟨.ok answer, journal⟩, s)

/-- Put a mapping with some items into a cache and show it. -/
def cachePut (s : Session) (loader : Loader) (key : BundleKey)
    (items : List (Text × Option Text)) : Effect :=
  let id := s.store.nextId
  let store := (s.store.add ⟨Dict.ofPairs items, false⟩).remember loader.cache key id
  let (seen, s) := view id { s with store }
  answer seen s

/-- Keep an accessor under a name. -/
def keep (s : Session) (name : Text) (accessor : Accessor) : Effect :=
  answer .nothing { s with accessors := s.accessors.put name accessor }

/-- What an operation does. -/
def perform (s : Session) : Operation → Effect
  | .write path bytes => answer .nothing { s with files := s.files.write path bytes }
  | .delete path => answer .nothing { s with files := s.files.delete path }
  | .makeDirectory path => answer .nothing { s with files := s.files.makeDirectory path }
  | .load name ref locale =>
    given (s.loader name) s fun loader => given (s.described ref) s fun bundle =>
      s.load loader bundle locale
  | .keepAccessor name loader ref locale =>
    given (s.loader loader) s fun loader => given (s.bundle ref) s fun _ =>
      s.keep name ⟨loader, s.described ref, locale⟩
  | .keepResources name ref locale =>
    given (s.bundle ref) s fun bundle =>
      let source : LocaleSource := if locale.isEmpty then .current else .fixed locale
      s.keep name ⟨s.localizer.loader, .ok bundle, source⟩
  | .call name =>
    match s.accessors.get? name with
    | none => refuse (.unknownName name) s
    | some accessor =>
      given (s.localeOf accessor.locale) s fun locale =>
        given accessor.bundle s fun bundle => s.load accessor.loader bundle locale
  | .setVariable name value => answer .nothing { s with vars := s.vars.put name value }
  | .assignItem name ref locale key text =>
    given (s.loader name) s fun loader => given (s.described ref) s fun bundle =>
      s.assignItem loader bundle locale key text
  | .cacheSize name =>
    given (s.loader name) s fun loader => answer (.count (s.store.cache loader.cache).length) s
  | .cacheClear name =>
    given (s.loader name) s fun loader =>
      answer .nothing { s with store := s.store.clear loader.cache }
  | .cacheHas name source locale =>
    given (s.loader name) s fun loader =>
      answer (.flag ((s.store.cache loader.cache).get? ⟨source, locale⟩).isSome) s
  | .cacheGet name source locale =>
    given (s.loader name) s fun loader =>
      match (s.store.cache loader.cache).get? ⟨source, locale⟩ with
      | none => answer .nothing s
      | some id =>
        let (seen, s) := view id s
        answer seen s
  | .cachePut name source locale items =>
    given (s.loader name) s fun loader => s.cachePut loader ⟨source, locale⟩ items
  | .context =>
    match s.context? with
    | none => answer .nothing s
    | some context => answer (.context context.locale context.preferences) s
  | .bind name target =>
    answer .nothing { s with
      contexts := s.contexts.bind target
      tokens := s.tokens.put name s.contexts.token }
  | .reset name => s.reset name
  | .state =>
    given (s.localizer.isRtl s.context?) s fun isRtl =>
      answer (.state s.current isRtl (Localizer.preferences s.context?)) s
  | .assign name value => s.assign name value
  | .setHook hook => answer .nothing { s with hook }
  | .hookCalls => answer (.switches s.hookCalls) s
  | .switch locale preferences => s.switch locale preferences
  | .format source args => s.format .null source args
  | .formatLocale locale source args => s.format locale source args
  | .formatAll ref key =>
    given (s.bundle ref) s fun bundle =>
      s.withStore (s.localizer.formatAll s.files.fileSystem s.context? bundle key)
        fun texts s => (.texts texts, s)
  | .payload source accept =>
    s.withStore (s.localizer.payload s.files.fileSystem s.context? source accept)
      fun text s => (.text text, s)

mutual

/-- The reply to a step, and the session after it. -/
def runStep (s : Session) : Step → Reply × Session
  | .perform operation =>
    let (outcome, s) := s.perform operation
    (.performed outcome, s)
  | .scope target steps fails =>
    let previous := s.contexts.bound
    let (replies, s) := runSteps { s with contexts := s.contexts.bind target } steps
    (.scope replies fails, { s with contexts := s.contexts.restore previous })

/-- The replies to steps that are taken one after the other. -/
def runSteps (s : Session) : List Step → List Reply × Session
  | [] => ([], s)
  | step :: rest =>
    let (reply, s) := runStep s step
    let (replies, s) := runSteps s rest
    (reply :: replies, s)

end

end Session

end Phrasebook
