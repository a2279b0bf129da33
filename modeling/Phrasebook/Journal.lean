import Phrasebook.Log.Level
import Phrasebook.Resources.Error

/-!
# Journals

What an operation did besides giving a result: the questions it put to the file system and
the events it logged, each in order. `Traced` is a result with its journal; doing one thing
after another appends the journals, and nothing is done after an error.
-/

namespace Phrasebook

/-- Something worth logging. -/
inductive Event
  | resolving (source locale : Text)
  /-- The file of a language is missing, and one for a region stands in for it. -/
  | standIn (tag stem name : Text)
  | merging (count : Nat) (path : Text)
  | unreadable (path : Text) (reason : Resources.Malformation)
  | notObject (path : Text)
  | notTexts (path : Text)
  | switched (locale : Text)
deriving DecidableEq

namespace Event

/-- How much an event weighs. -/
def level : Event → Log.Level
  | .resolving .. | .standIn .. | .merging .. => Log.debug
  | .unreadable .. | .notObject .. | .notTexts .. => Log.error
  | .switched .. => Log.info

/-- The name of the logger that an event goes to. -/
def logger : Event → Text
  | .switched .. => "localekit.core.i18n".toList
  | _ => "localekit.infra.resources".toList

/-- The message of an event. -/
def message : Event → Text
  | .resolving source locale =>
    "Resolving resources for ".toList ++ source ++ " (".toList ++ locale ++ ")".toList
  | .standIn tag stem name =>
    "No ".toList ++ tag ++ " file for ".toList ++ stem ++ ", using ".toList ++ name
  | .merging count path => "Merging ".toList ++ Text.ofNat count ++ " keys from ".toList ++ path
  | .unreadable path reason =>
    "Cannot parse resource file ".toList ++ path ++ ": ".toList ++ reason.reason
  | .notObject path => "Resource file ".toList ++ path ++ " does not hold a JSON object".toList
  | .notTexts path => "Resource file ".toList ++ path ++ " has non-string values".toList
  | .switched locale => "Locale switched to ".toList ++ locale

end Event

/-- What an operation did besides giving a result. -/
structure Journal where
  calls : List FileCall
  events : List Event
deriving DecidableEq

namespace Journal

/-- The journal of an operation that did nothing. -/
def empty : Journal := ⟨[], []⟩

/-- One journal after another. -/
def append (a b : Journal) : Journal :=
  ⟨a.calls ++ b.calls, a.events ++ b.events⟩

instance : Append Journal := ⟨append⟩

@[simp] theorem append_calls (a b : Journal) : (a ++ b).calls = a.calls ++ b.calls := rfl

@[simp] theorem append_events (a b : Journal) : (a ++ b).events = a.events ++ b.events := rfl

@[simp] theorem empty_append (a : Journal) : empty ++ a = a := rfl

@[simp] theorem append_empty (a : Journal) : a ++ empty = a := by
  obtain ⟨calls, events⟩ := a
  change Journal.mk (calls ++ []) (events ++ []) = _
  simp

theorem append_assoc (a b c : Journal) : a ++ b ++ c = a ++ (b ++ c) := by
  change Journal.mk _ _ = Journal.mk _ _
  simp

end Journal

/-- A result with the journal of what was done for it. -/
structure Traced (ε α : Type) where
  result : Except ε α
  journal : Journal

namespace Traced

variable {ε δ α β : Type}

/-- A result for which nothing was done. -/
def of (result : Except ε α) : Traced ε α :=
  ⟨result, .empty⟩

/-- Go on with the result, unless it is an error. -/
def bind (x : Traced ε α) (f : α → Traced ε β) : Traced ε β :=
  match x.result with
  | .error e => ⟨.error e, x.journal⟩
  | .ok a => ⟨(f a).result, x.journal ++ (f a).journal⟩

instance : Monad (Traced ε) where
  pure a := of (.ok a)
  bind := bind

/-- Fail. -/
def fail (e : ε) : Traced ε α :=
  of (.error e)

/-- Put a question to the file system. -/
def ask (call : FileCall) (answer : Except ε α) : Traced ε α :=
  ⟨answer, ⟨[call], []⟩⟩

/-- Log an event. -/
def log (event : Event) : Traced ε Unit :=
  ⟨.ok (), ⟨[], [event]⟩⟩

/-- Change the kind of error. -/
def mapError (f : ε → δ) (x : Traced ε α) : Traced δ α :=
  ⟨x.result.mapError f, x.journal⟩

theorem bind_of_ok {x : Traced ε α} {a : α} (h : x.result = .ok a) (f : α → Traced ε β) :
    x.bind f = ⟨(f a).result, x.journal ++ (f a).journal⟩ := by
  simp [bind, h]

theorem bind_of_error {x : Traced ε α} {e : ε} (h : x.result = .error e) (f : α → Traced ε β) :
    x.bind f = ⟨.error e, x.journal⟩ := by
  simp [bind, h]

end Traced

end Phrasebook
