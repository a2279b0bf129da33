import Phrasebook.Proofs.Session.Control

/-!
# The moments of a run

A run is a tree, as a scope holds steps of its own. What it does is still a row: operations and
entries into scopes, each of them in the session that the one before it left behind. Leaving a scope
brings back a binding and does nothing else, so the row forgets no more than which context is
bound. `Leads` says so, and what a run does to everything but the binding is proved by induction on
its row.
-/

namespace Phrasebook.Session

open Phrasebook.Locale (ContextId Contexts Hook RequestContext Target Token)

variable {s t u : Session}

/-! ## Moments -/

/-- What is done at a moment: an operation, or the entry into a scope. -/
inductive Move
  | perform (operation : Operation)
  | enter (target : Target)

/-- A moment of a run: a session, and what is done in it. -/
structure Moment where
  session : Session
  move : Move

/-- The session in a scope before its steps. -/
def enter (s : Session) (target : Target) : Session :=
  { s with contexts := s.contexts.bind target }

/-- The session after a moment. -/
def Moment.after [Platform] (m : Moment) : Session :=
  match m.move with
  | .perform operation => (m.session.perform operation).2
  | .enter target => m.session.enter target

mutual

/-- The moments of a step. -/
def momentsOfStep [Platform] (s : Session) : Step → List Moment
  | .perform operation => [⟨s, .perform operation⟩]
  | .scope target steps _ => ⟨s, .enter target⟩ :: moments (s.enter target) steps

/-- The moments of steps that are taken one after the other. -/
def moments [Platform] (s : Session) : List Step → List Moment
  | [] => []
  | step :: rest => momentsOfStep s step ++ moments (s.runStep step).2 rest

end

/-! ## From one moment to the next -/

/-- Sessions that differ in the context that is bound, and in nothing else. -/
def SameButBound (s t : Session) : Prop :=
  ∃ bound, t = { s with contexts := s.contexts.restore bound }

namespace SameButBound

theorem refl (s : Session) : s.SameButBound s :=
  ⟨s.contexts.bound, rfl⟩

theorem trans (h : s.SameButBound t) (h' : t.SameButBound u) : s.SameButBound u := by
  obtain ⟨_, rfl⟩ := h
  obtain ⟨bound, rfl⟩ := h'
  exact ⟨bound, rfl⟩

end SameButBound

/-- Moments lead from a session to another one: each is in the session that the one before it left
behind, but for the context that is bound. -/
inductive Leads [Platform] : Session → List Moment → Session → Prop
  | done {s t : Session} (h : s.SameButBound t) : Leads s [] t
  | move {s t : Session} {m : Moment} {rest : List Moment} (h : s.SameButBound m.session)
      (hrest : Leads m.after rest t) : Leads s (m :: rest) t

namespace Leads

variable {before after : List Moment} {m : Moment}

theorem of_same [Platform] (h : s.SameButBound t) (hleads : Leads t before u) : Leads s before u :=
    by
  cases hleads with
  | done hsame => exact .done (h.trans hsame)
  | move hsame hrest => exact .move (h.trans hsame) hrest

theorem append [Platform] (h : Leads s before t) (h' : Leads t after u) : Leads s
    (before ++ after) u := by
  induction h with
  | done hsame => exact of_same hsame h'
  | move hsame _ ih => exact .move hsame (ih h')

/-- A row of moments is cut at any of them. -/
theorem cut [Platform] (h : Leads s (before ++ m :: after) t) :
    Leads s before m.session ∧ Leads m.after after t := by
  induction before generalizing s with
  | nil =>
      obtain _ | ⟨hsame, hrest⟩ := h
      exact ⟨.done hsame, hrest⟩
  | cons first rest ih =>
      obtain _ | ⟨hsame, hrest⟩ := h
      obtain ⟨hbefore, hafter⟩ := ih hrest
      exact ⟨.move hsame hbefore, hafter⟩

end Leads

mutual

theorem leads_runStep [Platform] (s : Session) :
    ∀ step : Step, Leads s (s.momentsOfStep step) (s.runStep step).2
  | .perform _ => .move (.refl s) (.done (.refl _))
  | .scope target steps _ => by
      have hbody := leads_runSteps (s.enter target) steps
      have hleave : Leads ((s.enter target).runSteps steps).2 []
          { ((s.enter target).runSteps steps).2 with
            contexts := ((s.enter target).runSteps steps).2.contexts.restore s.contexts.bound } :=
        .done ⟨_, rfl⟩
      have hscope := hbody.append hleave
      rw [List.append_nil] at hscope
      exact .move (.refl s) hscope

/-- The moments of a run lead to the session after it. -/
theorem leads_runSteps [Platform] (s : Session) :
    ∀ steps : List Step, Leads s (s.moments steps) (s.runSteps steps).2
  | [] => .done (.refl s)
  | step :: rest => (leads_runStep s step).append (leads_runSteps _ rest)

end

/-! ## What a run keeps -/

/-- A property that leaving a scope keeps holds after a run if each of its moments keeps it. -/
theorem Leads.keeps [Platform] {P : Session → Prop} (hsame : ∀ {s t}, s.SameButBound t → P s → P t)
    {ms : List Moment} (h : Leads s ms t) (hmoment : ∀ m ∈ ms, P m.session → P m.after)
    (hs : P s) : P t := by
  induction h with
  | done hbound => exact hsame hbound hs
  | move hbound _ ih =>
      have hafter := hmoment _ List.mem_cons_self (hsame hbound hs)
      exact ih (fun m hm => hmoment m (List.mem_cons_of_mem _ hm)) hafter

/-- The session with other contexts. -/
def under (s : Session) (c : Contexts) : Session :=
  { s with contexts := c }

/-- A property that does not look at the contexts holds after a run if each of its operations keeps
it. -/
theorem Leads.keeps_of_perform [Platform] {P : Session → Prop}
    (hunder : ∀ {s} c, P s → P (s.under c)) {ms : List Moment} (h : Leads s ms t)
    (hperform : ∀ u operation, ⟨u, .perform operation⟩ ∈ ms → P u → P (u.perform operation).2)
    (hs : P s) : P t := by
  refine h.keeps ?_ ?_ hs
  · rintro u v ⟨_, rfl⟩ hu
    exact hunder _ hu
  · rintro ⟨u, move⟩ hm hu
    cases move with
    | perform operation => exact hperform u operation hm hu
    | enter target => exact hunder _ hu

/-- Loaders and bundles are the same. -/
structure SameNames (s t : Session) : Prop where
  loaders : t.loaders = s.loaders
  bundles : t.bundles = s.bundles
  loader : t.localizer.loader = s.localizer.loader

theorem SameNames.refl (s : Session) : s.SameNames s :=
  ⟨rfl, rfl, rfl⟩

theorem SameNames.trans (h : s.SameNames t) (h' : t.SameNames u) : s.SameNames u :=
  ⟨h'.loaders.trans h.loaders, h'.bundles.trans h.bundles, h'.loader.trans h.loader⟩

theorem SameNames.bundle (h : s.SameNames t) (ref : BundleRef) : t.bundle ref = s.bundle ref := by
  cases ref with
  | source | path => rfl
  | named name => rw [Session.bundle, Session.bundle, h.bundles]

theorem Control.sameNames {operation : Operation} (h : s.Control operation t) :
    s.SameNames t := by
  cases h with
  | quiet _ hsame =>
      obtain ⟨_, _, _, _, rfl⟩ := hsame
      exact ⟨rfl, rfl, rfl⟩
  | _ => exact ⟨rfl, rfl, rfl⟩

/-- Loaders and bundles stay what they are through every run. -/
theorem Leads.sameNames [Platform] {ms : List Moment} (h : Leads s ms t) : s.SameNames t := by
  refine h.keeps_of_perform ?_ ?_ (.refl s)
  · intro u c hu
    exact ⟨hu.loaders, hu.bundles, hu.loader⟩
  · intro u operation _ hu
    exact hu.trans (u.control operation).sameNames

end Phrasebook.Session
