import Phrasebook.Locale.Localizer

/-!
# Steps of a session

What can be asked of a session, and what it can answer. A step is one operation or a scope,
which binds a context around other steps. Loaders, bundles, tokens, accessors and variables
are called by names.
-/

namespace Phrasebook.Session

open Phrasebook.Locale (Hook Target)
open Resources (Entries)

/-- A bundle: the one of a source, one that was given a name, or a path alone, which only a
localizer takes for the bundle of a source. -/
inductive BundleRef
  | source (path : Text)
  | named (name : Text)
  | path (path : Text)

/-- What is formatted: a template, or a bundle whose key comes first among the arguments. -/
inductive Source
  | template (text : Text)
  | bundle (bundle : BundleRef)

/-- The locale of an accessor: fixed, read from a variable at each call, or the current one
at each call. -/
inductive LocaleSource
  | fixed (locale : Value)
  | variable (name : Text)
  | current

/-- An operation of a session. The first loader is meant where none is named. -/
inductive Operation
  | write (path : Text) (bytes : List UInt8)
  | delete (path : Text)
  | makeDirectory (path : Text)
  | load (loader : Option Text) (bundle : BundleRef) (locale : Value)
  | keepAccessor (name : Text) (loader : Option Text) (bundle : BundleRef) (locale : LocaleSource)
  | keepResources (name : Text) (bundle : BundleRef) (locale : Value)
  | call (name : Text)
  | setVariable (name : Text) (value : Value)
  | assignItem (loader : Option Text) (bundle : BundleRef) (locale : Value) (key : Text)
      (text : Option Text)
  | cacheSize (loader : Option Text)
  | cacheClear (loader : Option Text)
  | cacheHas (loader : Option Text) (source locale : Text)
  | cacheGet (loader : Option Text) (source locale : Text)
  | cachePut (loader : Option Text) (source locale : Text) (items : List (Text × Option Text))
  | context
  | bind (token : Text) (target : Target)
  | reset (token : Text)
  | state
  | assign (name : Text) (value : Value)
  | setHook (hook : Option Hook)
  | hookCalls
  | switch (locale preferences : Value)
  | format (source : Source) (args : List Value)
  | formatLocale (locale : Value) (source : Source) (args : List Value)
  | formatAll (bundle : BundleRef) (key : Value)
  | payload (source : Text) (accept : Option Text)

/-- A step of a session. -/
inductive Step
  | perform (operation : Operation)
  /-- Steps with a context bound around them, which may end in a failure. -/
  | scope (target : Target) (steps : List Step) (fails : Bool)

/-- A mapping as it is seen from outside: the number of its instance and its items. -/
structure View where
  number : Nat
  items : Entries

/-- What an operation answers. -/
inductive Answer
  | nothing
  | view (view : View)
  | count (n : Nat)
  | flag (b : Bool)
  | text (text : Text)
  | texts (texts : List (Text × Text))
  | switches (switches : List (Value × Value))
  | context (locale preferences : Value)
  | state (current : Value) (isRtl : Bool) (preferences : Value)

/-- The reply to a step. -/
inductive Reply
  | performed (outcome : Traced Error Answer)
  | scope (replies : List Reply) (failed : Bool)

end Phrasebook.Session
