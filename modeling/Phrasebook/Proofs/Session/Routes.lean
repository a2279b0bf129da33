import Phrasebook.Proofs.Session.Memoisation
import Phrasebook.Proofs.Session.Moments

/-!
# Routes to a text

A text is reached in a locale that is named, in the locale of the context that is bound, or through
an accessor that was kept earlier. A context matters to a lookup by the locale that is chosen alone,
so naming a locale and binding a context that has it come to the same. An accessor that was kept
without a locale reads the current one at its call: it is still there then, its loader and its
bundle are what they were, and so it does what a load does.
-/

namespace Phrasebook

open Phrasebook.Locale (Contexts Localizer RequestContext)
open Resources (Bundle menuSource)

/-! ## The locale that is chosen -/

namespace Locale.Localizer

variable {l : Localizer} {context other : Option RequestContext} {locale another : Value}

theorem chosen_of_empty (h : locale.isEmpty = true) (l : Localizer)
    (context : Option RequestContext) : l.chosen context locale = l.current context :=
  if_pos h

theorem chosen_of_nonempty (h : locale.isEmpty = false) (l : Localizer)
    (context : Option RequestContext) : l.chosen context locale = locale := by
  rw [chosen, h]
  rfl

/-- The current locale is that of a context which has one. -/
theorem current_of_nonempty {context : RequestContext} (h : context.locale.isEmpty = false)
    (l : Localizer) : l.current (some context) = context.locale := by
  rw [current, h]
  rfl

/-- A context and a named locale matter to a lookup by the locale that is chosen alone. -/
theorem formatLocale_congr [Platform] (h : l.chosen context locale = l.chosen other another)
    (fs : FileSystem) (bundle : Bundle) (args : List Value) :
    l.formatLocale fs context locale bundle args =
      l.formatLocale fs other another bundle args := by
  cases args with
  | nil => rfl
  | cons key rest => rw [formatLocale, formatLocale, lookup, lookup, h]

end Locale.Localizer

namespace Session

variable {s t : Session} {c : Contexts} {context : RequestContext} {locale : Value}
  {operation : Operation} {name : Text}

/-! ## Named locales and bound contexts -/

theorem sameNames_under (s : Session) (c : Contexts) : s.SameNames (s.under c) :=
  ⟨rfl, rfl, rfl⟩

/-- A bundle is formatted in a named locale as it is where a context with that locale is bound. -/
theorem perform_format_under [Platform] (hcurrent : c.current? = some context)
    (hlocale : context.locale = locale) (hne : locale.isEmpty = false) (s : Session)
    (ref : BundleRef) (args : List Value) :
    (s.under c).perform (.format (.bundle ref) args) =
      ((s.perform (.formatLocale locale (.bundle ref) args)).1,
        (s.perform (.formatLocale locale (.bundle ref) args)).2.under c) := by
  have hchosen : s.localizer.chosen c.current? .null = s.localizer.chosen s.context? locale := by
    subst hlocale
    rw [hcurrent, Localizer.chosen_of_empty rfl, Localizer.current_of_nonempty hne,
      Localizer.chosen_of_nonempty hne]
  change (s.under c).format .null (.bundle ref) args =
    ((s.format locale (.bundle ref) args).1, (s.format locale (.bundle ref) args).2.under c)
  cases hbundle : s.bundle ref with
  | error e =>
      have hunder : (s.under c).bundle ref = .error e :=
        ((sameNames_under s c).bundle ref).trans hbundle
      rw [format_bundle_of_error hbundle, format_bundle_of_error hunder]
  | ok bundle =>
      have hunder : (s.under c).bundle ref = .ok bundle :=
        ((sameNames_under s c).bundle ref).trans hbundle
      have hlookup : (s.under c).localizer.formatLocale (s.under c).files.fileSystem
            (s.under c).context? .null bundle args =
          s.localizer.formatLocale s.files.fileSystem s.context? locale bundle args :=
        Localizer.formatLocale_congr hchosen s.files.fileSystem bundle args
      rw [format_bundle_of_ok hbundle, format_bundle_of_ok hunder, hlookup]
      rfl

/-- A locale that is empty names none: the current one is followed. -/
theorem perform_formatLocale_of_empty [Platform] (hempty : locale.isEmpty = true) (s : Session)
    (source : Source) (args : List Value) :
    s.perform (.formatLocale locale source args) = s.perform (.format source args) := by
  change s.format locale source args = s.format .null source args
  cases source with
  | template text => rfl
  | bundle ref =>
      have hchosen : s.localizer.chosen s.context? locale =
          s.localizer.chosen s.context? .null := by
        rw [Localizer.chosen_of_empty hempty, Localizer.chosen_of_empty rfl]
      cases hbundle : s.bundle ref with
      | error e => rw [format_bundle_of_error hbundle, format_bundle_of_error hbundle]
      | ok bundle =>
          rw [format_bundle_of_ok hbundle, format_bundle_of_ok hbundle,
            Localizer.formatLocale_congr hchosen]

/-! ## Accessors -/

/-- A moment keeps an accessor under a name, or tries to. -/
def Moment.Keeps (m : Moment) (name : Text) : Prop :=
  ∃ operation, m.move = .perform operation ∧ operation.keptName? = some name

/-- An accessor stays as it is until its name is given to another one. -/
theorem Control.get?_accessors (h : s.Control operation t)
    (hname : operation.keptName? ≠ some name) :
    t.accessors.get? name = s.accessors.get? name := by
  cases h with
  | quiet _ hsame =>
      obtain ⟨_, _, _, _, rfl⟩ := hsame
      rfl
  | @keep _ other hother accessor =>
      have hne : name ≠ other := by
        rintro rfl
        exact hname hother
      exact Dict.get?_put_of_ne _ hne _
  | _ => rfl

theorem Leads.get?_accessors [Platform] {ms : List Moment} (h : Leads s ms t)
    (hkeeps : ∀ m ∈ ms, ¬ m.Keeps name) : t.accessors.get? name = s.accessors.get? name := by
  refine h.keeps_of_perform (P := (·.accessors.get? name = s.accessors.get? name))
    (fun _ hu => hu) ?_ rfl
  intro u operation hm hu
  refine ((u.control operation).get?_accessors ?_).trans hu
  intro hname
  exact hkeeps _ hm ⟨operation, rfl, hname⟩

/-- An accessor that was kept without a locale loads its bundle in the current locale of the call,
whatever has been done since it was kept. -/
theorem Leads.perform_call [Platform] {ref : BundleRef} {bundle : Bundle} {ms : List Moment}
    (h : Leads (s.perform (.keepResources name ref locale)).2 ms t)
    (hbundle : s.bundle ref = .ok bundle) (hempty : locale.isEmpty = true)
    (hkeeps : ∀ m ∈ ms, ¬ m.Keeps name) :
    t.perform (.call name) = t.load t.localizer.loader bundle t.current := by
  have hkept : s.perform (.keepResources name ref locale) =
      s.keep name ⟨s.localizer.loader, .ok bundle, .current⟩ := by
    rw [perform, hbundle]
    dsimp only [given]
    rw [hempty]
    rfl
  rw [hkept] at h
  have haccessor : t.accessors.get? name = some ⟨s.localizer.loader, .ok bundle, .current⟩ :=
    (h.get?_accessors hkeeps).trans (Dict.get?_put_self _ _ _)
  have hloader : t.localizer.loader = s.localizer.loader := h.sameNames.loader
  rw [perform, haccessor, hloader]
  rfl

/-- A load names the first loader by naming none. -/
theorem perform_load_of_described [Platform] {ref : BundleRef} {bundle : Bundle}
    (h : s.described ref = .ok bundle) (locale : Value) :
    s.perform (.load none ref locale) = s.load s.localizer.loader bundle locale := by
  rw [perform, h]
  rfl

/-! ## All routes -/

/-- All routes to a text agree, in what they answer, ask and leave behind. To format a bundle in a
named locale is to format it where a context with that locale is bound, and where the name is empty,
to format it in the current one. The call of an accessor that was kept without a locale, anywhere
before it in a run, is a load of its bundle in the current locale of the call. -/
theorem routes_agree [Platform] (s : Session) (steps : List Step) :
    (∀ (locale : Value) (ref : BundleRef) (args : List Value) (c : Contexts)
        (context : RequestContext),
      locale.isEmpty = false → c.current? = some context → context.locale = locale →
      (s.under c).perform (.format (.bundle ref) args) =
        ((s.perform (.formatLocale locale (.bundle ref) args)).1,
          (s.perform (.formatLocale locale (.bundle ref) args)).2.under c)) ∧
    (∀ (locale : Value) (source : Source) (args : List Value), locale.isEmpty = true →
      s.perform (.formatLocale locale source args) = s.perform (.format source args)) ∧
    ∀ (before between after : List Moment) (kept m : Moment) (name : Text) (ref : BundleRef)
        (locale : Value) (bundle : Bundle),
      s.moments steps = before ++ kept :: between ++ m :: after →
      kept.move = .perform (.keepResources name ref locale) → locale.isEmpty = true →
      kept.session.bundle ref = .ok bundle → (∀ other ∈ between, ¬ other.Keeps name) →
      let t := m.session
      t.perform (.call name) = t.load t.localizer.loader bundle t.current ∧
        ∀ named, t.described named = .ok bundle →
          t.perform (.call name) = t.perform (.load none named t.current) := by
  refine ⟨?_, ?_, ?_⟩
  · intro locale ref args c context hne hcurrent hlocale
    exact perform_format_under hcurrent hlocale hne s ref args
  · intro locale source args hempty
    exact perform_formatLocale_of_empty hempty s source args
  · rintro before between after ⟨u, move⟩ m name ref locale bundle hsplit rfl hempty hbundle hkeeps
    intro t
    have hrun := leads_runSteps s steps
    rw [hsplit] at hrun
    have hbetween := hrun.cut.1.cut.2
    have hcall := hbetween.perform_call hbundle hempty hkeeps
    refine ⟨hcall, ?_⟩
    intro named hnamed
    exact hcall.trans (perform_load_of_described hnamed t.current).symm

/-- An accessor of the menu is kept in a scope where no locale is known and called in an Austrian
one; a text of the menu is formatted in that scope and, by the name of its locale, outside. -/
theorem routes_agree_menu :
    let name := "menu".toList
    let austrian := Value.text "de-AT".toList
    let title := [Value.text "title".toList]
    let keep := Operation.keepResources name (.path menuSource) .null
    let s := start menuPlan
    let t := (s.runStep (.scope (.new .fresh) [.perform keep] false)).2.enter
      (.new ⟨austrian, .null⟩)
    let named := s.perform (.formatLocale austrian (.bundle (.source menuSource)) title)
    t.perform (.call name) = t.perform (.load none (.source menuSource) austrian) ∧
      (s.under t.contexts).perform (.format (.bundle (.source menuSource)) title) =
        (named.1, named.2.under t.contexts) := by
  intro name austrian title keep s t named
  let u := s.enter (.new .fresh)
  let v := (s.runStep (.scope (.new .fresh) [.perform keep] false)).2
  let enter : Moment := ⟨v, .enter (.new ⟨austrian, .null⟩)⟩
  let steps : List Step := [.scope (.new .fresh) [.perform keep] false,
    .scope (.new ⟨austrian, .null⟩) [.perform (.call name)] false]
  obtain ⟨hnamed, -, hcall⟩ := routes_agree s steps
  have hsplit : s.moments steps = [⟨s, .enter (.new .fresh)⟩] ++ ⟨u, .perform keep⟩ ::
      [enter] ++ ⟨t, .perform (.call name)⟩ :: [] := rfl
  have hkeeps : ∀ other ∈ [enter], ¬ other.Keeps name := by
    rintro other hother ⟨operation, hmove, -⟩
    rw [List.mem_singleton.1 hother] at hmove
    cases hmove
  constructor
  · obtain ⟨-, hload⟩ := hcall _ _ _ _ _ name (.path menuSource) .null ⟨menuSource, none⟩ hsplit
      rfl rfl rfl hkeeps
    exact hload (.source menuSource) rfl
  · exact hnamed austrian _ _ _ ⟨austrian, .null⟩ rfl rfl rfl

end Session

end Phrasebook
