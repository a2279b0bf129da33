import Phrasebook.Proofs.Locale.Languages
import Phrasebook.Proofs.Session.Memoisation
import Phrasebook.Proofs.Session.Moments
import Phrasebook.Proofs.Session.StoreInvariants

/-!
# All texts of a key

A key is formatted in the current locale and in all known languages at once. That answers what
formatting it in each of them would answer in the same session: it fails as the first of them that
fails, and if none does, the text of each language can be told from the answer, though most of the
texts that repeat the default one are left out.
-/

namespace Phrasebook.Session

open Phrasebook.Locale (english longCodes)
open Phrasebook.Locale.Localizer
open Resources (Bundle Store menuSource)

variable {plan : Plan} {s t : Session} {ref : BundleRef} {key : Value}

/-! ## Mappings of a run -/

/-- A property of stores that is kept by all that a session does to its store holds after all
moments. -/
theorem Leads.keepsStore [Platform] {P : Store → Prop} (hP : IsKept P) {ms : List Moment}
    (h : Leads s ms t) (hs : P s.store) : P t.store :=
  h.keeps_of_perform (P := fun u => P u.store) (fun _ hu => hu)
    (fun _ operation _ hu => hP.perform hu operation) hs

theorem knowsHeld_of_leads [Platform] {ms : List Moment} (h : Leads (start plan) ms s) :
    s.store.KnowsHeld :=
  h.keepsStore isKept_knowsHeld (isKept_knowsHeld.start Store.knowsHeld_empty plan)

/-- The mapping that stands in for the files of a bundle is there at every moment. -/
theorem isKnown_of_leads [Platform] {bundle : Bundle} {ms : List Moment}
    (h : Leads (start plan) ms s)
    (hbundle : s.bundle ref = .ok bundle) : IsKnown s.store bundle := by
  have hstart : (start plan).bundle ref = .ok bundle := (h.sameNames.bundle ref).symm.trans hbundle
  have hlater := h.keepsStore (isKept_le_nextId (start plan).store.nextId) (Nat.le_refl _)
  exact ((isSound_start plan).bundle hstart).mono hlater

/-! ## All languages at once -/

/-- What comes of formatting a key of a bundle, with nothing to fill in, in a locale. -/
def rendered [Platform] (s : Session) (ref : BundleRef) (key locale : Value) :
    Except Error Answer :=
  (s.perform (.formatLocale locale (.bundle ref) [key])).1.result

/-- What comes of formatting a key of a bundle in all languages. -/
def renderedAll [Platform] (s : Session) (ref : BundleRef) (key : Value) : Except Error Answer :=
  (s.perform (.formatAll ref key)).1.result

/-- The current locale and all known languages, in the order in which a key is formatted. -/
def allLocales (s : Session) : List Value :=
  s.localizer.locales s.context?

theorem rendered_of_ok [Platform] {bundle : Bundle} (h : s.bundle ref = .ok bundle)
    (key locale : Value) :
    s.rendered ref key locale =
      (s.localizer.formatLocale s.files.fileSystem s.context? locale bundle [key]
        s.store).1.result.map .text := by
  rw [rendered, perform, format_bundle_of_ok h]

theorem rendered_of_error [Platform] {e : Error} (h : s.bundle ref = .error e)
    (key locale : Value) :
    s.rendered ref key locale = .error e := by
  rw [rendered, perform, format_bundle_of_error h]
  rfl

theorem renderedAll_of_ok [Platform] {bundle : Bundle} (h : s.bundle ref = .ok bundle)
    (key : Value) :
    s.renderedAll ref key =
      (s.localizer.formatAll s.files.fileSystem s.context? bundle key s.store).1.result.map
        .texts := by
  rw [renderedAll, perform, h]
  exact congrArg (·.1.result) (s.withStore_answered _ .texts)

theorem renderedAll_of_error [Platform] {e : Error} (h : s.bundle ref = .error e) (key : Value) :
    s.renderedAll ref key = .error e := by
  rw [renderedAll, perform, h]
  rfl

/-- All languages at once fail as the first one that fails, or their texts are listed. -/
theorem renderedAll_cases [Platform] {ms : List Moment} (h : Leads (start plan) ms s)
    (ref : BundleRef) (key : Value) :
    (∃ e, FailsFirst (s.rendered ref key) s.allLocales e ∧ s.renderedAll ref key = .error e) ∨
      ∃ default text, s.rendered ref key s.current = .ok (.text default) ∧
        (∀ entry ∈ longCodes,
          s.rendered ref key (.text entry.1) = .ok (.text (text entry.1))) ∧
        s.renderedAll ref key = .ok (.texts (allListed default text)) := by
  cases hbundle : s.bundle ref with
  | error e =>
      have hfirst := rendered_of_error hbundle key s.current
      exact .inl ⟨e, (failsFirst_cons_of_error hfirst _).2 rfl, renderedAll_of_error hbundle key⟩
  | ok bundle =>
      have hrendered : s.rendered ref key = fun locale =>
          (s.localizer.formatLocale s.files.fileSystem s.context? locale bundle [key]
            s.store).1.result.map .text := funext (rendered_of_ok hbundle key)
      rw [hrendered, renderedAll_of_ok hbundle]
      obtain ⟨e, hfails, hall⟩ | ⟨default, text, hdefault, htext, hall⟩ :=
        formatAll_cases (knowsHeld_of_leads h) (isKnown_of_leads h hbundle) s.localizer
          s.files.fileSystem s.context? key
      · refine .inl ⟨e, hfails.map Answer.text, ?_⟩
        rw [hall]
        rfl
      · refine .inr ⟨default, text, congrArg (Except.map Answer.text) hdefault, ?_, ?_⟩
        · intro entry hentry
          exact congrArg (Except.map Answer.text) (htext entry hentry)
        · rw [hall]
          rfl

theorem renderedAll_eq_error_iff [Platform] {ms : List Moment} (h : Leads (start plan) ms s)
    {e : Error} :
    s.renderedAll ref key = .error e ↔ FailsFirst (s.rendered ref key) s.allLocales e := by
  obtain ⟨first, hfails, hall⟩ | ⟨default, text, hdefault, htext, hall⟩ :=
    renderedAll_cases h ref key
  · rw [hall]
    constructor
    · rintro ⟨⟩
      exact hfails
    · intro hother
      rw [hfails.unique hother]
  · rw [hall]
    refine iff_of_false (fun herror => nomatch herror) ?_
    intro hfails
    obtain ⟨locale, hlocale, herror⟩ := hfails.exists_error
    obtain rfl | hlanguage := List.mem_cons.1 hlocale
    · cases herror.symm.trans hdefault
    · obtain ⟨entry, hentry, rfl⟩ := List.mem_map.1 hlanguage
      cases herror.symm.trans (htext entry hentry)

theorem exists_renderedAll_eq_ok_iff [Platform] {ms : List Moment} (h : Leads (start plan) ms s) :
    (∃ answer, s.renderedAll ref key = .ok answer) ↔
      ∀ locale ∈ s.allLocales, ∃ answer, s.rendered ref key locale = .ok answer := by
  constructor
  · rintro ⟨answer, hall⟩
    obtain hok | ⟨e, hfails⟩ := all_ok_or_failsFirst (s.rendered ref key) s.allLocales
    · exact hok
    · cases hall.symm.trans ((renderedAll_eq_error_iff h).2 hfails)
  · intro hok
    cases hall : s.renderedAll ref key with
    | ok answer => exact ⟨answer, rfl⟩
    | error e =>
        obtain ⟨locale, hlocale, herror⟩ := ((renderedAll_eq_error_iff h).1 hall).exists_error
        obtain ⟨answer, hanswer⟩ := hok locale hlocale
        cases herror.symm.trans hanswer

/-- Formatting a key in all languages loses nothing. At every moment of a run, it fails with the
error of the first locale, in their order, in which formatting the key fails, and succeeds exactly
if there is none. If it succeeds, the default text comes first and the listed languages after it in
their order; the text of each language is the one under its long code or else the default one;
American English is always listed, and any other language if and only if its text is not the
default one. -/
theorem renderedAll_recovers [Platform] {m : Moment} {steps : List Step}
    (hm : m ∈ (start plan).moments steps) (ref : BundleRef) (key : Value) :
    let s := m.session
    (∀ e, s.renderedAll ref key = .error e ↔
      FailsFirst (s.rendered ref key) s.allLocales e) ∧
    ((∃ answer, s.renderedAll ref key = .ok answer) ↔
      ∀ locale ∈ s.allLocales, ∃ answer, s.rendered ref key locale = .ok answer) ∧
    ∀ answer, s.renderedAll ref key = .ok answer → ∃ texts default, answer = .texts texts ∧
      s.rendered ref key s.current = .ok (.text default) ∧
      texts.head? = some (defaultName, default) ∧
      (Dict.keys texts).Nodup ∧
      (Dict.keys texts).Sublist (defaultName :: longCodes.map Prod.snd) ∧
      "en-us".toList ∈ Dict.keys texts ∧
      ∀ entry ∈ longCodes, ∃ text, s.rendered ref key (.text entry.1) = .ok (.text text) ∧
        (Dict.get? texts entry.2).getD default = text ∧
        (entry.2 ≠ "en-us".toList → (entry.2 ∈ Dict.keys texts ↔ text ≠ default)) := by
  intro s
  obtain ⟨before, after, hsplit⟩ := List.append_of_mem hm
  have hrun := leads_runSteps (start plan) steps
  rw [hsplit] at hrun
  have hleads : Leads (start plan) before s := hrun.cut.1
  refine ⟨fun e => renderedAll_eq_error_iff hleads, exists_renderedAll_eq_ok_iff hleads, ?_⟩
  intro answer hanswer
  obtain ⟨e, -, hall⟩ | ⟨default, text, hdefault, htext, hall⟩ := renderedAll_cases hleads ref key
  · cases hanswer.symm.trans hall
  · cases hanswer.symm.trans hall
    have henglish : (english, "en-us".toList) ∈ longCodes := by
      decide
    refine ⟨_, default, rfl, hdefault, rfl, nodup_keys_allListed default text,
      (keys_listed_sublist default text longCodes).cons_cons defaultName,
      (mem_keys_allListed_iff henglish).2 (.inl rfl), ?_⟩
    intro entry hentry
    refine ⟨text entry.1, htext entry hentry, getD_get?_allListed hentry, ?_⟩
    intro hother
    rw [mem_keys_allListed_iff hentry, eq_english_iff entry hentry]
    exact or_iff_right hother

/-- The menu has a title in English and in German, and the French title is the default one. -/
theorem renderedAll_recovers_menu :
    let s := start menuPlan
    let title := Value.text "title".toList
    let texts := [("default".toList, "Home".toList), ("de-de".toList, "Start".toList),
      ("en-us".toList, "Home".toList)]
    let steps : List Step := [.perform (.formatAll (.source menuSource) title)]
    (⟨s, .perform (.formatAll (.source menuSource) title)⟩ : Moment) ∈ s.moments steps ∧
      s.renderedAll (.source menuSource) title = .ok (.texts texts) ∧
      s.rendered (.source menuSource) title (.text "fr".toList) = .ok (.text "Home".toList) := by
  intro s title texts steps
  have hm : (⟨s, .perform (.formatAll (.source menuSource) title)⟩ : Moment) ∈ s.moments steps :=
    List.mem_singleton_self _
  have hall : s.renderedAll (.source menuSource) title = .ok (.texts texts) := by
    cbv
  obtain ⟨-, -, hanswer⟩ := renderedAll_recovers hm (.source menuSource) title
  obtain ⟨_, default, ⟨⟩, hdefault, hhead, -, -, -, htexts⟩ := hanswer _ hall
  cases hhead
  obtain ⟨text, hfrench, htext, -⟩ := htexts ("fr".toList, "fr-fr".toList) (by decide)
  refine ⟨hm, hall, hfrench.trans ?_⟩
  rw [← htext]
  rfl

end Phrasebook.Session
