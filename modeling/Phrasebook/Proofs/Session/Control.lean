import Phrasebook.Proofs.Dict
import Phrasebook.Session.Run

/-!
# What an operation does besides resources

Few operations of a session touch anything but its resources: those that keep an accessor, bind a
context or bring a binding back, assign an attribute, register a hook or switch the locale.
`Control` says once what each of them does and when it is refused, and what an operation leaves
alone is read off its cases.
-/

namespace Phrasebook.Session

open Phrasebook.Locale (ContextId Contexts Hook Localizer Lookup RequestContext Target Token)
open Resources (Bundle BundleKey Loader MappingId Store)

variable {s t u : Session} {operation : Operation}

/-! ## Operations on resources alone -/

/-- An operation touches resources alone: files, mappings and caches, variables, and what has been
seen. -/
def Operation.isQuiet : Operation → Bool
  | .keepAccessor .. | .keepResources .. | .bind .. | .reset .. | .assign .. | .setHook ..
  | .switch .. => false
  | _ => true

/-- Sessions that differ in resources alone. -/
def SameControl (s t : Session) : Prop :=
  ∃ files store vars seen, t = { s with files, store, vars, seen }

namespace SameControl

theorem refl (s : Session) : s.SameControl s :=
  ⟨_, _, _, _, rfl⟩

theorem trans (h : s.SameControl t) (h' : t.SameControl u) : s.SameControl u := by
  obtain ⟨_, _, _, _, rfl⟩ := h
  obtain ⟨_, _, _, _, rfl⟩ := h'
  exact ⟨_, _, _, _, rfl⟩

theorem given {α : Type} {x : Except Error α} {f : α → Effect}
    (hgo : ∀ a, s.SameControl (f a).2) : s.SameControl (Session.given x s f).2 := by
  cases x with
  | error e => exact .refl s
  | ok a => exact hgo a

theorem view (id : MappingId) (s : Session) : s.SameControl (Session.view id s).2 := by
  rw [Session.view]
  split
  · exact .refl s
  · exact ⟨_, _, _, _, rfl⟩

theorem withStore {α : Type} (s : Session) (x : Lookup α) {f : α → Session → Answer × Session}
    (hf : ∀ a (t : Session), t.SameControl (f a t).2) : s.SameControl (s.withStore x f).2 := by
  rw [Session.withStore]
  split
  · exact ⟨_, _, _, _, rfl⟩
  · rename_i a journal store _
    exact trans ⟨_, _, _, _, rfl⟩ (hf a { s with store })

theorem load [Platform] (s : Session) (loader : Loader) (bundle : Bundle) (locale : Value) :
    s.SameControl (s.load loader bundle locale).2 :=
  withStore s _ view

theorem assignItem [Platform] (s : Session) (loader : Loader) (bundle : Bundle) (locale : Value)
    (key : Text)
    (text : Option Text) : s.SameControl (s.assignItem loader bundle locale key text).2 := by
  rw [Session.assignItem]
  split
  · exact ⟨_, _, _, _, rfl⟩
  · split
    · exact ⟨_, _, _, _, rfl⟩
    · rename_i id _ _ _ _ store _
      exact trans ⟨_, _, _, _, rfl⟩ (view id { s with store })

theorem format [Platform] (s : Session) (locale : Value) (source : Source) (args : List Value) :
    s.SameControl (s.format locale source args).2 := by
  cases source with
  | template text => exact given fun _ => .refl s
  | bundle ref => exact given fun _ => withStore s _ fun _ t => .refl t

/-- Most operations touch resources alone. -/
theorem perform [Platform] (h : operation.isQuiet = true) : s.SameControl (s.perform operation).2 :=
    by
  cases operation with
  | write | delete | makeDirectory | setVariable => exact ⟨_, _, _, _, rfl⟩
  | load => exact given fun loader => given fun bundle => load s loader bundle _
  | call name =>
      rw [Session.perform]
      split
      · exact .refl s
      · exact given fun locale => given fun bundle => load s _ bundle locale
  | assignItem => exact given fun loader => given fun bundle => assignItem s loader bundle _ _ _
  | cacheSize | cacheHas | state => exact given fun _ => .refl s
  | cacheClear => exact given fun _ => ⟨_, _, _, _, rfl⟩
  | cacheGet =>
      apply given
      intro loader
      split
      · exact .refl s
      · exact view _ s
  | cachePut => exact given fun _ => trans ⟨_, _, _, _, rfl⟩ (view _ _)
  | context =>
      rw [Session.perform]
      split
      · exact .refl s
      · exact .refl s
  | hookCalls => exact .refl s
  | format source args => exact format s .null source args
  | formatLocale locale source args => exact format s locale source args
  | formatAll => exact given fun _ => withStore s _ fun _ t => .refl t
  | payload => exact withStore s _ fun _ t => .refl t
  | keepAccessor | keepResources | bind | reset | assign | setHook | switch => cases h

end SameControl

/-! ## Switches -/

/-- The session with a context written. -/
def written (s : Session) (id : ContextId) (context : RequestContext) : Session :=
  { s with contexts := { s.contexts with objects := s.contexts.objects.set id context } }

/-- What the hook notes of a switch: the new locale and the current one. -/
def noted? (s : Session) (locale : Value) : Option (Value × Value) :=
  s.hook.map fun _ => (locale, s.current)

/-- What a switch answers once the context is written: the error of a hook that fails. -/
def hookAnswer (s : Session) (locale : Value) : Except Error Answer :=
  match s.hook with
  | some .fails => .error (.hookFailed locale)
  | _ => .ok .nothing

/-- The session after a switch of the context that is bound. -/
def switched (s : Session) (id : ContextId) (locale preferences : Value) : Session :=
  let t := s.written id ⟨locale, preferences⟩
  { t with hookCalls := s.hookCalls ++ (t.noted? locale).toList }

theorem callHook_eq (s : Session) (locale : Value) :
    s.callHook locale =
      (s.hookAnswer locale, { s with hookCalls := s.hookCalls ++ (s.noted? locale).toList }) := by
  rw [callHook, hookAnswer, noted?]
  cases hhook : s.hook with
  | none =>
      simp only [Option.map_none, Option.toList_none, List.append_nil]
      rw [← hhook]
  | some hook =>
      cases hook with
      | records => rfl
      | fails => rfl

theorem switch?_of_bound {c : Contexts} {id : ContextId} (h : c.bound = some id)
    (locale preferences : Value) :
    c.switch? locale preferences =
      some { c with objects := c.objects.set id ⟨locale, preferences⟩ } := by
  obtain ⟨objects, bound⟩ := c
  cases h
  rfl

theorem switch_of_bound {id : ContextId} (h : s.contexts.bound = some id)
    (locale preferences : Value) :
    s.switch locale preferences =
      (⟨s.hookAnswer locale, ⟨[], [.switched locale.plain]⟩⟩,
        s.switched id locale preferences) := by
  rw [switch, switch?_of_bound h]
  dsimp only
  rw [callHook_eq]
  rfl

theorem switch_of_unbound (h : s.contexts.bound = none) (locale preferences : Value) :
    s.switch locale preferences = (.fail .noContext, s) := by
  simp only [switch, Contexts.switch?, h]
  rfl

/-! ## Tokens -/

/-- The session after the binding of a kept token is brought back. -/
def broughtBack (s : Session) (name : Text) (token : Token) : Session :=
  { s with
    contexts := s.contexts.restore token.previous
    tokens := s.tokens.put name { token with used := true } }

theorem reset_of_unused {name : Text} {token : Token} (h : s.tokens.get? name = some token)
    (hunused : token.used = false) :
    s.reset name = (.of (.ok .nothing), s.broughtBack name token) := by
  simp only [reset, h, hunused]
  rfl

/-- A token that has been brought back is refused. -/
theorem reset_of_used {name : Text} {token : Token} (h : s.tokens.get? name = some token)
    (hused : token.used = true) : s.reset name = (.fail .tokenUsed, s) := by
  simp only [reset, h, hused]
  rfl

theorem reset_of_unknown {name : Text} (h : s.tokens.get? name = none) :
    s.reset name = (.fail (.unknownName name), s) := by
  simp only [reset, h]
  rfl

/-! ## All operations -/

/-- The name under which an operation keeps an accessor. -/
def Operation.keptName? : Operation → Option Text
  | .keepAccessor name .. | .keepResources name .. => some name
  | _ => none

/-- What an operation does to a session. -/
inductive Control (s : Session) : Operation → Session → Prop
  | quiet {operation : Operation} {t : Session} (hquiet : operation.isQuiet = true)
      (hsame : s.SameControl t) : Control s operation t
  | keep {operation : Operation} {name : Text} (hname : operation.keptName? = some name)
      (accessor : Accessor) :
      Control s operation { s with accessors := s.accessors.put name accessor }
  | refuseKeep {operation : Operation} {name : Text} (hname : operation.keptName? = some name) :
      Control s operation s
  | bind (name : Text) (target : Target) :
      Control s (.bind name target) { s with
        contexts := s.contexts.bind target
        tokens := s.tokens.put name s.contexts.token }
  | reset {name : Text} {token : Token} (htoken : s.tokens.get? name = some token)
      (hunused : token.used = false) : Control s (.reset name) (s.broughtBack name token)
  | refuseReset (name : Text) : Control s (.reset name) s
  | assign (name : Text) (value : Value) :
      Control s (.assign name value) { s with
        localizer := { s.localizer with defaultLocale := value } }
  | refuseAssign (name : Text) (value : Value) : Control s (.assign name value) s
  | setHook (hook : Option Hook) : Control s (.setHook hook) { s with hook }
  | switch {id : ContextId} (hbound : s.contexts.bound = some id) (locale preferences : Value) :
      Control s (.switch locale preferences) (s.switched id locale preferences)
  | refuseSwitch (hbound : s.contexts.bound = none) (locale preferences : Value) :
      Control s (.switch locale preferences) s

theorem control_keep {α : Type} {name : Text} {accessor : α → Accessor}
    (hname : operation.keptName? = some name) (x : Except Error α) :
    s.Control operation (given x s fun a => s.keep name (accessor a)).2 := by
  cases x with
  | error e => exact .refuseKeep hname
  | ok a => exact .keep hname (accessor a)

theorem control_reset (s : Session) (name : Text) : s.Control (.reset name) (s.reset name).2 := by
  cases htoken : s.tokens.get? name with
  | none =>
      rw [reset_of_unknown htoken]
      exact .refuseReset name
  | some token =>
      cases hused : token.used with
      | true =>
          rw [reset_of_used htoken hused]
          exact .refuseReset name
      | false =>
          rw [reset_of_unused htoken hused]
          exact .reset htoken hused

theorem control_assign (s : Session) (name : Text) (value : Value) :
    s.Control (.assign name value) (s.assign name value).2 := by
  rw [Session.assign]
  split
  · exact .refuseAssign name value
  · split
    · exact .assign name value
    · exact .refuseAssign name value

theorem control_switch (s : Session) (locale preferences : Value) :
    s.Control (.switch locale preferences) (s.switch locale preferences).2 := by
  cases hbound : s.contexts.bound with
  | none =>
      rw [switch_of_unbound hbound]
      exact .refuseSwitch hbound locale preferences
  | some id =>
      rw [switch_of_bound hbound]
      exact .switch hbound locale preferences

/-- What any operation does to a session. -/
theorem control [Platform] (s : Session) (operation : Operation) :
    s.Control operation (s.perform operation).2 := by
  cases operation with
  | keepAccessor name loader ref locale =>
      rw [perform]
      cases s.loader loader with
      | error e => exact .refuseKeep rfl
      | ok found => exact control_keep rfl (s.bundle ref)
  | keepResources name ref locale => exact control_keep rfl (s.bundle ref)
  | bind name target => exact .bind name target
  | reset name => exact control_reset s name
  | assign name value => exact control_assign s name value
  | setHook hook => exact .setHook hook
  | switch locale preferences => exact control_switch s locale preferences
  | _ => exact .quiet rfl (.perform rfl)

/-- The store changes with resources alone. -/
theorem Control.store_eq (h : s.Control operation t) (hcontrols : operation.isQuiet = false) :
    t.store = s.store := by
  cases h with
  | quiet hquiet =>
      rw [hcontrols] at hquiet
      cases hquiet
  | _ => rfl

end Phrasebook.Session
