import Phrasebook.Proofs.Session.Scopes

/-!
# Switches of the locale and their hook

A switch writes to the context that is bound and to nothing else, and then calls the hook that is
registered, once and with the new locale. A hook that fails makes the switch fail, and what is
written stays. Nothing else that a session does calls the hook, so the calls of a whole run are its
switches under a context and a hook, in their order. That a context which is bound is there, and can
be written to, is an invariant of runs that bind what is there.
-/

namespace Phrasebook

open Phrasebook.Locale (ContextId Contexts Hook Localizer RequestContext Target Token)

/-! ## Contexts that are there -/

/-- What is to be bound is there: a context that is known already has to be one of the contexts. -/
def Locale.Target.IsKnown (c : Contexts) : Target → Prop
  | .existing id => id < c.objects.length
  | _ => True

instance (c : Contexts) (target : Target) : Decidable (target.IsKnown c) :=
  match target with
  | .nothing => isTrue trivial
  | .new _ => isTrue trivial
  | .existing id => inferInstanceAs (Decidable (id < c.objects.length))

namespace Session

variable {s t : Session} {operation : Operation} {bound : Option ContextId}

/-- A context that is bound, or may be brought back, is there. -/
def Knows (s : Session) (bound : Option ContextId) : Prop :=
  ∀ id, bound = some id → ∃ context, s.contexts.objects[id]? = some context

/-- All contexts that are bound or remembered by tokens are there. -/
structure KnowsContexts (s : Session) : Prop where
  bound : s.Knows s.contexts.bound
  tokens : ∀ {name token}, s.tokens.get? name = some token → s.Knows token.previous

/-- What a moment binds. -/
def Moment.target? (m : Moment) : Option Target :=
  match m.move with
  | .perform (.bind _ target) | .enter target => some target
  | _ => none

/-- A moment binds nothing but what is there. -/
def Moment.IsKnown (m : Moment) : Prop :=
  ∀ target ∈ m.target?, target.IsKnown m.session.contexts

instance (m : Moment) : Decidable m.IsKnown :=
  inferInstanceAs (Decidable (∀ target ∈ m.target?, target.IsKnown m.session.contexts))

theorem Knows.none (s : Session) : s.Knows none := by
  rintro id ⟨⟩

theorem Knows.control (h : s.Knows bound) (hcontrol : s.Control operation t) : t.Knows bound := by
  intro id hid
  obtain ⟨context, hcontext⟩ := h id hid
  exact ⟨_, hcontrol.getElem?_objects hcontext⟩

theorem Knows.leads [Platform] (h : s.Knows bound) {ms : List Moment} (hleads : Leads s ms t) :
    t.Knows bound := by
  intro id hid
  obtain ⟨context, hcontext⟩ := h id hid
  exact ⟨_, hleads.getElem?_objects hcontext⟩

theorem Knows.enter (h : s.Knows bound) (target : Target) : (s.enter target).Knows bound := by
  intro id hid
  obtain ⟨context, hcontext⟩ := h id hid
  exact ⟨_, getElem?_objects_bind hcontext target⟩

/-- What is bound next is there. -/
theorem knows_bound_enter {target : Target} (htarget : target.IsKnown s.contexts) :
    (s.enter target).Knows (s.enter target).contexts.bound := by
  cases target with
  | nothing => exact .none _
  | new context =>
      rintro id ⟨⟩
      exact ⟨context, List.getElem?_concat_length⟩
  | existing other =>
      rintro id ⟨⟩
      exact ⟨_, List.getElem?_eq_getElem htarget⟩

theorem KnowsContexts.enter (h : s.KnowsContexts) {target : Target}
    (htarget : target.IsKnown s.contexts) : (s.enter target).KnowsContexts := by
  refine ⟨knows_bound_enter htarget, ?_⟩
  intro name token htoken
  exact (h.tokens htoken).enter target

/-- An operation that binds what is there keeps all contexts there. -/
theorem KnowsContexts.control (h : s.KnowsContexts) (hcontrol : s.Control operation t)
    (hknown : Moment.IsKnown ⟨s, .perform operation⟩) : t.KnowsContexts := by
  have hkept : ∀ {bound}, s.Knows bound → t.Knows bound := fun hbound => hbound.control hcontrol
  cases hcontrol with
  | quiet _ hsame =>
      obtain ⟨_, _, _, _, rfl⟩ := hsame
      exact ⟨h.bound, h.tokens⟩
  | bind name target =>
      refine ⟨knows_bound_enter (hknown target rfl), ?_⟩
      intro other token htoken
      change (s.tokens.put name s.contexts.token).get? other = some token at htoken
      rw [Dict.get?_put] at htoken
      split at htoken
      · cases htoken
        exact hkept h.bound
      · exact hkept (h.tokens htoken)
  | @reset name token htoken _ =>
      have hprevious : s.Knows token.previous := h.tokens htoken
      refine ⟨hprevious, ?_⟩
      intro other found hfound
      change (s.tokens.put name { token with used := true }).get? other = some found at hfound
      rw [Dict.get?_put] at hfound
      split at hfound
      · cases hfound
        exact hprevious
      · exact h.tokens hfound
  | switch => exact ⟨hkept h.bound, fun htoken => hkept (h.tokens htoken)⟩
  | _ => exact ⟨h.bound, h.tokens⟩

mutual

theorem knowsContexts_runStep [Platform] (s : Session) (hs : s.KnowsContexts) :
    ∀ step : Step, (∀ m ∈ s.momentsOfStep step, m.IsKnown) →
      (∀ m ∈ s.momentsOfStep step, m.session.KnowsContexts) ∧ (s.runStep step).2.KnowsContexts
  | .perform operation, hknown => by
      have hmem : (⟨s, .perform operation⟩ : Moment) ∈ s.momentsOfStep (.perform operation) :=
        List.mem_singleton_self _
      refine ⟨?_, hs.control (s.control operation) (hknown _ hmem)⟩
      intro m hm
      rw [List.mem_singleton.1 hm]
      exact hs
  | .scope target steps fails, hknown => by
      obtain ⟨htarget, hbody⟩ := List.forall_mem_cons.1 hknown
      obtain ⟨hmoments, hafter⟩ :=
        knowsContexts_runSteps (s.enter target) (hs.enter (htarget target rfl)) steps hbody
      have hprevious := (hs.bound.enter target).leads (leads_runSteps (s.enter target) steps)
      exact ⟨List.forall_mem_cons.2 ⟨hs, hmoments⟩, hprevious, hafter.tokens⟩

/-- In a run that binds what is there, all contexts that are bound or remembered are there at every
moment. -/
theorem knowsContexts_runSteps [Platform] (s : Session) (hs : s.KnowsContexts) :
    ∀ steps : List Step, (∀ m ∈ s.moments steps, m.IsKnown) →
      (∀ m ∈ s.moments steps, m.session.KnowsContexts) ∧ (s.runSteps steps).2.KnowsContexts
  | [], _ => ⟨fun _ hm => absurd hm List.not_mem_nil, hs⟩
  | step :: rest, hknown => by
      obtain ⟨hfirst, hrest⟩ := List.forall_mem_append.1 hknown
      obtain ⟨hmoments, hafter⟩ := knowsContexts_runStep s hs step hfirst
      obtain ⟨hmoments', hafter'⟩ := knowsContexts_runSteps (s.runStep step).2 hafter rest hrest
      exact ⟨List.forall_mem_append.2 ⟨hmoments, hmoments'⟩, hafter'⟩

end

/-! ## One switch -/

/-- What a switch does where a context is bound: it answers as the hook does, writes to that context
and to no other one, and has the hook called with the new locale once it is the current one. -/
structure SwitchesTo (s t : Session) (locale preferences : Value)
    (outcome : Traced Error Answer) : Prop where
  result : outcome.result = s.hookAnswer locale
  frame : ∃ objects calls,
    t = { s with contexts := { s.contexts with objects }, hookCalls := calls }
  others : ∀ id, s.contexts.bound ≠ some id →
    t.contexts.objects[id]? = s.contexts.objects[id]?
  written : t.context? = some ⟨locale, preferences⟩
  current : t.current = if locale.isEmpty then s.localizer.defaultLocale else locale
  preferences : Localizer.preferences t.context? = preferences
  calls : t.hookCalls = s.hookCalls ++ (s.hook.map fun _ => (locale, t.current)).toList

theorem context?_eq_none_iff (h : s.KnowsContexts) :
    s.context? = none ↔ s.contexts.bound = none := by
  rw [context?, Contexts.current?]
  cases hbound : s.contexts.bound with
  | none => exact iff_of_true rfl rfl
  | some id =>
      obtain ⟨context, hcontext⟩ := h.bound id hbound
      rw [Option.bind_some, hcontext]
      exact iff_of_false (Option.some_ne_none _) (Option.some_ne_none _)

theorem switchesTo_switched [Platform] {id : ContextId} (h : s.KnowsContexts)
    (hbound : s.contexts.bound = some id) (locale preferences : Value) :
    s.SwitchesTo (s.switched id locale preferences) locale preferences
      (s.perform (.switch locale preferences)).1 := by
  obtain ⟨old, hold⟩ := h.bound id hbound
  have hwritten : (s.switched id locale preferences).context? = some ⟨locale, preferences⟩ := by
    change s.contexts.bound.bind ((s.contexts.objects.set id ⟨locale, preferences⟩)[·]?) = _
    rw [hbound, Option.bind_some]
    exact List.getElem?_set_self (List.getElem?_eq_some_iff.1 hold).1
  have hperform : s.perform (.switch locale preferences) =
      (⟨s.hookAnswer locale, ⟨[], [.switched locale.plain]⟩⟩,
        s.switched id locale preferences) :=
    switch_of_bound hbound locale preferences
  refine ⟨?_, ⟨_, _, rfl⟩, ?_, hwritten, ?_, ?_, rfl⟩
  · rw [hperform]
  · intro other hother
    have hne : id ≠ other := by
      rintro rfl
      exact hother hbound
    exact List.getElem?_set_ne hne
  · rw [current, hwritten]
    rfl
  · rw [hwritten]
    rfl

/-! ## Whole runs -/

/-- The hook that a moment registers, which may be none. -/
def Moment.registered? (m : Moment) : Option (Option Hook) :=
  match m.move with
  | .perform (.setHook hook) => some hook
  | _ => none

/-- What a moment has the hook note: a switch where a context is bound and a hook is registered
gives it the new locale, and the hook finds the locale that is then the current one. -/
def Moment.noted? [Platform] (m : Moment) : Option (Value × Value) :=
  match m.move with
  | .perform (.switch locale _) =>
    if m.session.context?.isSome && m.session.hook.isSome then some (locale, m.after.current)
    else none
  | _ => none

theorem Control.hook (h : s.Control operation t) :
    t.hook = (Moment.registered? ⟨s, .perform operation⟩).getD s.hook := by
  cases h with
  | @quiet operation _ hquiet hsame =>
      obtain ⟨_, _, _, _, rfl⟩ := hsame
      cases operation with
      | setHook => cases hquiet
      | _ => rfl
  | @keep operation _ hname | @refuseKeep operation _ hname =>
      cases operation with
      | setHook => cases hname
      | _ => rfl
  | _ => rfl

/-- The hook is the one that was registered last. -/
theorem Leads.hook [Platform] {ms : List Moment} (h : Leads s ms t) :
    t.hook = (ms.filterMap Moment.registered?).getLastD s.hook := by
  induction h with
  | done hsame =>
      obtain ⟨_, rfl⟩ := hsame
      rfl
  | @move s t m rest hsame _ ih =>
      have hafter : m.after.hook = m.registered?.getD s.hook := by
        obtain ⟨_, heq⟩ := hsame
        obtain ⟨u, move⟩ := m
        cases heq
        cases move with
        | perform operation => exact (control _ operation).hook
        | enter target => rfl
      rw [ih, hafter, List.filterMap_cons]
      cases m.registered? with
      | none => rfl
      | some hook => exact List.getLastD_cons.symm

theorem Control.hookCalls_of_not_switch (h : s.Control operation t)
    (hne : ∀ locale preferences, operation ≠ .switch locale preferences) :
    t.hookCalls = s.hookCalls := by
  cases h with
  | quiet _ hsame =>
      obtain ⟨_, _, _, _, rfl⟩ := hsame
      rfl
  | switch => exact absurd rfl (hne _ _)
  | _ => rfl

theorem Moment.noted?_of_not_switch [Platform]
    (hne : ∀ locale preferences, operation ≠ .switch locale preferences) (s : Session) :
    Moment.noted? ⟨s, .perform operation⟩ = none := by
  rw [noted?]
  split
  · rename_i locale preferences heq
    exact absurd (Move.perform.inj heq) (hne locale _)
  · rfl

theorem hookCalls_switch [Platform] (h : s.KnowsContexts) (locale preferences : Value) :
    let m : Moment := ⟨s, .perform (.switch locale preferences)⟩
    m.after.hookCalls = s.hookCalls ++ m.noted?.toList := by
  intro m
  cases hbound : s.contexts.bound with
  | none =>
      have hcontext := (context?_eq_none_iff h).2 hbound
      have hafter : m.after = s := congrArg Prod.snd (switch_of_unbound hbound locale preferences)
      have hnoted : m.noted? = none := by
        simp only [m, Moment.noted?, hcontext]
        rfl
      rw [hafter, hnoted]
      exact (List.append_nil _).symm
  | some id =>
      have hafter : m.after = s.switched id locale preferences :=
        congrArg Prod.snd (switch_of_bound hbound locale preferences)
      have hcontext : s.context?.isSome = true := by
        rw [Option.isSome_iff_ne_none, Ne, context?_eq_none_iff h, hbound]
        exact Option.some_ne_none id
      have hnoted : m.noted? = s.hook.map fun _ => (locale, m.after.current) := by
        change (if s.context?.isSome && s.hook.isSome then some (locale, m.after.current)
          else none) = _
        rw [hcontext]
        cases s.hook with
        | none => rfl
        | some hook => rfl
      rw [hnoted, hafter]
      rfl

theorem hookCalls_after [Platform] {m : Moment} (h : m.session.KnowsContexts) :
    m.after.hookCalls = m.session.hookCalls ++ m.noted?.toList := by
  obtain ⟨u, move⟩ := m
  cases move with
  | enter target => exact (List.append_nil _).symm
  | perform operation =>
      by_cases hswitch : ∃ locale preferences, operation = .switch locale preferences
      · obtain ⟨locale, preferences, rfl⟩ := hswitch
        exact hookCalls_switch h locale preferences
      · have hne : ∀ locale preferences, operation ≠ .switch locale preferences := by
          rintro locale preferences rfl
          exact hswitch ⟨locale, preferences, rfl⟩
        rw [Moment.noted?_of_not_switch hne]
        change (u.perform operation).2.hookCalls = u.hookCalls ++ []
        rw [List.append_nil]
        exact (u.control operation).hookCalls_of_not_switch hne

/-- The hook is called by the switches of a run, in their order, and by nothing else. -/
theorem Leads.hookCalls [Platform] {ms : List Moment} (h : Leads s ms t)
    (hknows : ∀ m ∈ ms, m.session.KnowsContexts) :
    t.hookCalls = s.hookCalls ++ ms.filterMap Moment.noted? := by
  induction h with
  | done hsame =>
      obtain ⟨_, rfl⟩ := hsame
      exact (List.append_nil _).symm
  | @move s t m rest hsame _ ih =>
      obtain ⟨hm, hrest⟩ := List.forall_mem_cons.1 hknows
      have hcalls : m.session.hookCalls = s.hookCalls := by
        obtain ⟨_, heq⟩ := hsame
        rw [heq]
      rw [ih hrest, hookCalls_after hm, hcalls, List.append_assoc, List.filterMap_cons]
      cases m.noted? with
      | none => rfl
      | some call => rfl

/-! ## The start -/

theorem exists_addBundles (s : Session) (plans : List (Text × BundlePlan)) :
    ∃ bundles store, s.addBundles plans = { s with bundles, store } := by
  induction plans generalizing s with
  | nil => exact ⟨_, _, rfl⟩
  | cons entry rest ih =>
      obtain ⟨name, source, items⟩ := entry
      cases items with
      | none =>
          obtain ⟨bundles, store, h⟩ := ih { s with bundles := s.bundles.put name ⟨source, none⟩ }
          exact ⟨bundles, store, h⟩
      | some items =>
          obtain ⟨bundles, store, h⟩ := ih { s with
            bundles := s.bundles.put name ⟨source, some s.store.nextId⟩
            store := s.store.add ⟨Dict.ofPairs items, false⟩ }
          exact ⟨bundles, store, h⟩

/-- A session starts without contexts and tokens, and without a hook. -/
theorem start_control (plan : Plan) :
    (start plan).contexts = .empty ∧ (start plan).tokens = [] ∧ (start plan).hook = none ∧
      (start plan).hookCalls = [] := by
  rw [start]
  obtain ⟨_, _, h⟩ := exists_addBundles _ plan.bundles
  rw [h]
  exact ⟨rfl, rfl, rfl, rfl⟩

theorem knowsContexts_start (plan : Plan) : (start plan).KnowsContexts := by
  obtain ⟨hcontexts, htokens, -, -⟩ := start_control plan
  constructor
  · rw [hcontexts]
    exact .none _
  · intro name token htoken
    rw [htokens] at htoken
    cases htoken

/-! ## The protocol of switches -/

/-- In every run that binds what is there: a switch where no context is bound is refused and does
nothing, and any other one does what `SwitchesTo` says, also if the hook fails; the hook that it
finds is the one registered last; and the calls of the hook are the switches of the run where a
context was bound and a hook was registered, in their order, each with the new locale and with the
locale that was the current one right after the write. -/
theorem switches_notify [Platform] (plan : Plan) (steps : List Step)
    (hknown : ∀ m ∈ (start plan).moments steps, m.IsKnown) :
    let ms := (start plan).moments steps
    (∀ m ∈ ms, ∀ locale preferences, m.move = .perform (.switch locale preferences) →
      (m.session.context? = none →
        m.session.perform (.switch locale preferences) = (.fail .noContext, m.session)) ∧
      (m.session.context? ≠ none →
        m.session.SwitchesTo m.after locale preferences
          (m.session.perform (.switch locale preferences)).1)) ∧
    (∀ before m after, ms = before ++ m :: after →
      m.session.hook = (before.filterMap Moment.registered?).getLastD none) ∧
    ((start plan).runSteps steps).2.hookCalls = ms.filterMap Moment.noted? := by
  intro ms
  obtain ⟨-, -, hhook, hcalls⟩ := start_control plan
  have hleads : Leads (start plan) ms ((start plan).runSteps steps).2 :=
    leads_runSteps (start plan) steps
  obtain ⟨hknows, -⟩ := knowsContexts_runSteps (start plan) (knowsContexts_start plan) steps hknown
  refine ⟨?_, ?_, ?_⟩
  · rintro ⟨u, move⟩ hm locale preferences hmove
    cases hmove
    have hu := hknows _ hm
    constructor
    · intro hnone
      exact switch_of_unbound ((context?_eq_none_iff hu).1 hnone) locale preferences
    · intro hsome
      obtain ⟨id, hbound⟩ := Option.ne_none_iff_exists'.1 fun hnone =>
        hsome ((context?_eq_none_iff hu).2 hnone)
      have hafter : (u.perform (.switch locale preferences)).2 =
          u.switched id locale preferences :=
        congrArg Prod.snd (switch_of_bound hbound locale preferences)
      change u.SwitchesTo (u.perform (.switch locale preferences)).2 locale preferences _
      rw [hafter]
      exact switchesTo_switched hu hbound locale preferences
  · intro before m after hsplit
    rw [hsplit] at hleads
    rw [hleads.cut.1.hook, hhook]
  · rw [hleads.hookCalls hknows, hcalls, List.nil_append]

/-- A hook that fails is called by both switches of a context, the second one in a scope that binds
that context again and with no locale; after the binding is brought back nothing calls it. -/
theorem switches_notify_failing_hook :
    let german := Value.text "de".toList
    let steps : List Step := [
      .perform (.bind "outer".toList (.new .fresh)),
      .perform (.setHook (some .fails)),
      .perform (.switch german .null),
      .scope (.existing 0) [.perform (.switch .null .null)] true,
      .perform (.reset "outer".toList),
      .perform (.switch german .null)]
    (∀ m ∈ (start barePlan).moments steps, m.IsKnown) ∧
      ((start barePlan).runSteps steps).2.hookCalls =
        [(german, german), (.null, .text "en-US".toList)] := by
  intro german steps
  have hknown : ∀ m ∈ (start barePlan).moments steps, m.IsKnown := by
    decide
  obtain ⟨-, -, hcalls⟩ := switches_notify barePlan steps hknown
  exact ⟨hknown, hcalls.trans rfl⟩

end Session

end Phrasebook
