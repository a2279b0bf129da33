import Phrasebook.Proofs.Session.Moments
import Phrasebook.Session.Start

/-!
# Scopes bring the binding back

Whatever happens in a scope, the context that was bound before it is bound after it: the very same
object. A token brings back the binding that it remembers and not the one below it on some stack, so
bindings may be brought back in any order or never; a scope is not disturbed by that. The object
itself may have been written to in the scope, and it holds what was last written to it while it was
bound.
-/

namespace Phrasebook.Session

open Phrasebook.Locale (ContextId Contexts Localizer RequestContext Target Token)

variable {s t : Session} {operation : Operation} {id : ContextId} {context : RequestContext}

/-! ## Writes to a context -/

/-- What a moment writes to a context: a switch writes to the one that is bound. -/
def Moment.write? (id : ContextId) (m : Moment) : Option RequestContext :=
  match m.move with
  | .perform (.switch locale preferences) =>
    if m.session.contexts.bound = some id then some ⟨locale, preferences⟩ else none
  | _ => none

/-- A context after some moments: what was last written to it, or what it was before them. -/
def rewritten (ms : List Moment) (id : ContextId) (context : RequestContext) : RequestContext :=
  (ms.filterMap (Moment.write? id)).getLastD context

theorem Moment.write?_of_not_switch
    (h : ∀ locale preferences, operation ≠ .switch locale preferences) (s : Session)
    (id : ContextId) : Moment.write? id ⟨s, .perform operation⟩ = none := by
  rw [write?]
  split
  · rename_i locale preferences heq
    exact absurd (Move.perform.inj heq) (h locale preferences)
  · rfl

/-- Binding another context leaves the contexts that are there as they are. -/
theorem getElem?_objects_bind {c : Contexts} (h : c.objects[id]? = some context)
    (target : Target) : (c.bind target).objects[id]? = some context := by
  cases target with
  | nothing => exact h
  | existing other => exact h
  | new other =>
      rw [← h]
      exact List.getElem?_append_left (List.getElem?_eq_some_iff.1 h).1

/-- An operation leaves every context as it is, unless it is a switch and the context is bound. -/
theorem Control.getElem?_objects (h : s.Control operation t)
    (hcontext : s.contexts.objects[id]? = some context) :
    t.contexts.objects[id]? =
      some ((Moment.write? id ⟨s, .perform operation⟩).getD context) := by
  cases h with
  | quiet hquiet hsame =>
      obtain ⟨_, _, _, _, rfl⟩ := hsame
      rw [Moment.write?_of_not_switch]
      · exact hcontext
      · rintro locale preferences rfl
        cases hquiet
  | keep hname | refuseKeep hname =>
      rw [Moment.write?_of_not_switch]
      · exact hcontext
      · rintro locale preferences rfl
        cases hname
  | bind name target => exact getElem?_objects_bind hcontext target
  | @switch bound hbound locale preferences =>
      change (s.contexts.objects.set bound ⟨locale, preferences⟩)[id]? = _
      simp only [Moment.write?, hbound, Option.some.injEq]
      by_cases hid : bound = id
      · subst hid
        rw [if_pos rfl]
        exact List.getElem?_set_self (List.getElem?_eq_some_iff.1 hcontext).1
      · rw [if_neg hid, List.getElem?_set_ne hid]
        exact hcontext
  | refuseSwitch hbound =>
      simp only [Moment.write?, hbound]
      exact hcontext
  | reset | refuseReset | assign | refuseAssign | setHook => exact hcontext

theorem Moment.getElem?_objects_after [Platform] {m : Moment}
    (h : m.session.contexts.objects[id]? = some context) :
    m.after.contexts.objects[id]? = some ((m.write? id).getD context) := by
  obtain ⟨u, move⟩ := m
  cases move with
  | perform operation => exact (u.control operation).getElem?_objects h
  | enter target => exact getElem?_objects_bind h target

theorem rewritten_cons (m : Moment) (rest : List Moment) (id : ContextId)
    (context : RequestContext) :
    rewritten (m :: rest) id context = rewritten rest id ((m.write? id).getD context) := by
  rw [rewritten, List.filterMap_cons]
  cases m.write? id with
  | none => rfl
  | some written => exact List.getLastD_cons

/-- A run leaves in every context what was last written to it while it was bound. -/
theorem Leads.getElem?_objects [Platform] {ms : List Moment} (h : Leads s ms t)
    (hcontext : s.contexts.objects[id]? = some context) :
    t.contexts.objects[id]? = some (rewritten ms id context) := by
  induction h generalizing context with
  | done hsame =>
      obtain ⟨_, rfl⟩ := hsame
      exact hcontext
  | move hsame _ ih =>
      obtain ⟨_, heq⟩ := hsame
      rw [rewritten_cons]
      apply ih
      apply Moment.getElem?_objects_after
      rw [heq]
      exact hcontext

/-! ## Tokens -/

/-- A moment binds a context under the name of a token. -/
def Moment.Binds (m : Moment) (name : Text) : Prop :=
  ∃ target, m.move = .perform (.bind name target)

/-- A moment brings back the binding of a token, or tries to. -/
def Moment.Resets (m : Moment) (name : Text) : Prop :=
  m.move = .perform (.reset name)

/-- A token stays as it is until its name is given to another one, and until it is brought back
unless it has been. -/
theorem Control.get?_tokens {name : Text} {token : Token} (h : s.Control operation t)
    (hbinds : ∀ target, operation ≠ .bind name target)
    (hresets : operation = .reset name → token.used = true)
    (htoken : s.tokens.get? name = some token) : t.tokens.get? name = some token := by
  cases h with
  | quiet _ hsame =>
      obtain ⟨_, _, _, _, rfl⟩ := hsame
      exact htoken
  | bind other target =>
      have hne : name ≠ other := by
        rintro rfl
        exact hbinds target rfl
      exact (Dict.get?_put_of_ne _ hne _).trans htoken
  | @reset other found hfound hunused =>
      have hne : name ≠ other := by
        rintro rfl
        cases hfound.symm.trans htoken
        rw [hresets rfl] at hunused
        cases hunused
      exact (Dict.get?_put_of_ne _ hne _).trans htoken
  | _ => exact htoken

theorem Leads.get?_tokens [Platform] {name : Text} {token : Token} {ms : List Moment}
    (h : Leads s ms t)
    (hbinds : ∀ m ∈ ms, ¬ m.Binds name) (hresets : ∀ m ∈ ms, m.Resets name → token.used = true)
    (htoken : s.tokens.get? name = some token) : t.tokens.get? name = some token := by
  refine h.keeps_of_perform (P := (·.tokens.get? name = some token)) (fun _ hu => hu) ?_ htoken
  intro u operation hm hu
  refine (u.control operation).get?_tokens ?_ ?_ hu
  · rintro target rfl
    exact hbinds _ hm ⟨target, rfl⟩
  · rintro rfl
    exact hresets _ hm rfl

/-- A binding is brought back to what was bound before it, whatever has been bound and brought back
under other names since. -/
theorem perform_reset_of_bind [Platform] {name : Text} {target : Target} {ms : List Moment}
    (h : Leads (s.perform (.bind name target)).2 ms t)
    (hmoments : ∀ m ∈ ms, ¬ m.Binds name ∧ ¬ m.Resets name) :
    t.perform (.reset name) = (.of (.ok .nothing), t.broughtBack name s.contexts.token) := by
  have htoken : (s.perform (.bind name target)).2.tokens.get? name = some s.contexts.token :=
    Dict.get?_put_self _ _ _
  refine reset_of_unused (h.get?_tokens ?_ ?_ htoken) rfl
  · intro m hm
    exact (hmoments m hm).1
  · intro m hm hresets
    exact absurd hresets (hmoments m hm).2

/-- The token of a name has been brought back. -/
def HasUsed (s : Session) (name : Text) : Prop :=
  ∃ token, s.tokens.get? name = some token ∧ token.used = true

theorem perform_reset_of_hasUsed [Platform] {name : Text} (h : s.HasUsed name) :
    s.perform (.reset name) = (.fail .tokenUsed, s) := by
  obtain ⟨token, htoken, hused⟩ := h
  exact reset_of_used htoken hused

/-- A token that could be brought back is used up. -/
theorem hasUsed_of_reset [Platform] {name : Text}
    (h : (s.perform (.reset name)).1.result = .ok .nothing) :
    (s.perform (.reset name)).2.HasUsed name := by
  change (s.reset name).1.result = _ at h
  change (s.reset name).2.HasUsed name
  cases htoken : s.tokens.get? name with
  | none =>
      rw [reset_of_unknown htoken] at h
      cases h
  | some token =>
      cases hused : token.used with
      | true =>
          rw [reset_of_used htoken hused] at h
          cases h
      | false =>
          rw [reset_of_unused htoken hused]
          exact ⟨_, Dict.get?_put_self _ _ _, rfl⟩

theorem Leads.hasUsed [Platform] {name : Text} {ms : List Moment} (h : Leads s ms t)
    (hbinds : ∀ m ∈ ms, ¬ m.Binds name) (hused : s.HasUsed name) : t.HasUsed name := by
  obtain ⟨token, htoken, htrue⟩ := hused
  exact ⟨token, h.get?_tokens hbinds (fun _ _ _ => htrue) htoken, htrue⟩

/-- The token of a name is used up after some moments: it was before them or has been brought back
by one of them, and the name has not been given to another token since. -/
def IsSpent [Platform] (s : Session) (before : List Moment) (name : Text) : Prop :=
  ∃ earlier later, before = earlier ++ later ∧ (∀ m ∈ later, ¬ m.Binds name) ∧
    (earlier = [] ∧ s.HasUsed name ∨
      ∃ first m, earlier = first ++ [m] ∧ m.Resets name ∧
        (m.session.perform (.reset name)).1.result = .ok .nothing)

theorem Leads.hasUsed_of_isSpent [Platform] {name : Text} {ms : List Moment} (h : Leads s ms t)
    (hspent : s.IsSpent ms name) : t.HasUsed name := by
  obtain ⟨earlier, later, rfl, hbinds, hearlier⟩ := hspent
  obtain ⟨rfl, hused⟩ | ⟨first, ⟨u, move⟩, rfl, rfl, hreset⟩ := hearlier
  · exact h.hasUsed hbinds hused
  · rw [List.append_assoc] at h
    exact h.cut.2.hasUsed hbinds (hasUsed_of_reset hreset)

/-! ## Leaving a scope -/

/-- The current locale, the direction of its script and the preferences, as a localizer takes them
from a context. -/
def stateOf (l : Localizer) (context : Option RequestContext) : Except Error Answer :=
  (l.isRtl context).map fun isRtl =>
    .state (l.current context) isRtl (Localizer.preferences context)

theorem perform_state [Platform] (s : Session) :
    s.perform .state = (.of (stateOf s.localizer s.context?), s) := by
  rw [perform, stateOf]
  cases s.localizer.isRtl s.context? with
  | error e => rfl
  | ok isRtl => rfl

/-- Leaving a scope binds the very context that was bound before it, or none, whatever has been
bound, brought back or written inside and whether the scope ends in a failure; a token does the same
that is taken before the steps, untouched by them and brought back after them. A context that was
there holds what was last written to it while it was bound, and what it held if there was nothing;
the current locale, the direction of its script and the preferences are those of the context that is
bound again. A token that is used up is refused inside, and nothing happens then. -/
theorem scope_restores [Platform] (s : Session) (target : Target) (steps : List Step)
    (fails : Bool) :
    let body := (s.enter target).moments steps
    let t := (s.runStep (.scope target steps fails)).2
    t.contexts.bound = s.contexts.bound ∧
    (∀ id context, (s.enter target).contexts.objects[id]? = some context →
      t.contexts.objects[id]? = some (rewritten body id context)) ∧
    (s.contexts.bound = none → (t.perform .state).1 = .of (stateOf t.localizer none)) ∧
    (∀ id context, s.contexts.bound = some id → s.contexts.objects[id]? = some context →
      (t.perform .state).1 = .of (stateOf t.localizer (some (rewritten body id context)))) ∧
    (∀ before m after name, body = before ++ m :: after → (s.enter target).IsSpent before name →
      m.session.perform (.reset name) = (.fail .tokenUsed, m.session)) ∧
    ∀ name, let taken := (s.perform (.bind name target)).2
      (∀ m ∈ taken.moments steps, ¬ m.Binds name ∧ ¬ m.Resets name) →
      ((taken.runSteps steps).2.perform (.reset name)).1.result = .ok .nothing ∧
      ((taken.runSteps steps).2.perform (.reset name)).2.contexts.bound = s.contexts.bound := by
  intro body t
  have hbody : Leads (s.enter target) body ((s.enter target).runSteps steps).2 :=
    leads_runSteps (s.enter target) steps
  have hbound : t.contexts.bound = s.contexts.bound := rfl
  have hobjects : ∀ id context, (s.enter target).contexts.objects[id]? = some context →
      t.contexts.objects[id]? = some (rewritten body id context) := by
    intro id context hcontext
    exact hbody.getElem?_objects hcontext
  refine ⟨hbound, hobjects, ?_, ?_, ?_, ?_⟩
  · intro hnone
    have hcontext : t.context? = none := by
      rw [context?, Contexts.current?, hbound, hnone]
      rfl
    rw [perform_state, hcontext]
  · intro id context hid hcontext
    have hagain : t.context? = some (rewritten body id context) := by
      rw [context?, Contexts.current?, hbound, hid]
      exact hobjects id context (getElem?_objects_bind hcontext target)
    rw [perform_state, hagain]
  · intro before m after name hsplit hspent
    rw [hsplit] at hbody
    exact perform_reset_of_hasUsed (hbody.cut.1.hasUsed_of_isSpent hspent)
  · intro name taken hmoments
    rw [perform_reset_of_bind (leads_runSteps taken steps) hmoments]
    exact ⟨rfl, rfl⟩

/-- A session without files, loaders or bundles. -/
def barePlan : Plan where
  files := .flat .empty
  settings := .default
  loaders := []
  defaultLocale := none
  bundles := []

/-- A context is bound again by a scope that switches it, leaves a binding of its own behind and
brings back the one from before the context twice. -/
theorem scope_restores_rebound :
    let outer := "outer".toList
    let german := Value.text "de".toList
    let s := ((start barePlan).perform (.bind outer (.new .fresh))).2
    let steps : List Step := [
      .perform (.switch german .null),
      .perform (.bind "inner".toList (.new .fresh)),
      .perform (.reset outer),
      .perform (.reset outer)]
    let spent := ((s.enter (.existing 0)).runSteps (steps.take 3)).2
    let t := (s.runStep (.scope (.existing 0) steps true)).2
    t.contexts.bound = some 0 ∧ t.contexts.objects[0]? = some ⟨german, .null⟩ ∧
      spent.contexts.bound = none ∧
      spent.perform (.reset outer) = (.fail .tokenUsed, spent) := by
  intro outer german s steps spent t
  obtain ⟨hbound, hobjects, -, -, hspent, -⟩ := scope_restores s (.existing 0) steps true
  refine ⟨hbound, hobjects 0 .fresh rfl, rfl, ?_⟩
  let body := (s.enter (.existing 0)).moments steps
  have hbody : body = body.take 3 ++ ⟨spent, .perform (.reset outer)⟩ :: [] := rfl
  refine hspent _ _ _ outer hbody ⟨body.take 3, [], rfl, ?_, .inr ⟨body.take 2, _, rfl, rfl, rfl⟩⟩
  intro m hm
  cases hm

end Phrasebook.Session
