import Phrasebook.Proofs.Session.Switches
import Phrasebook.Proofs.Settings.Languages
import Phrasebook.Session.Start

/-!
# Languages from right to left

The settings may list the languages that are written from right to left in one text, with commas
between them. Whatever maker puts the settings together, such a text is never at fault, and no step
of a session changes what it lists. Whether the current locale is written from right to left depends
on nothing but its first two characters and the items of the text, whatever blanks there are around
them and whatever their case; items that are longer or shorter than two characters say nothing
(`isRtl_iff_lists`).
-/

namespace Phrasebook

open Phrasebook.Locale (Localizer RequestContext)

/-! ## The current locale -/

namespace Locale.Localizer

variable {l : Localizer} {context : Option RequestContext} {locale : Text}

/-- The current locale is a text: that of the context, or the default one where there is no context
or its locale is empty. -/
def Follows (l : Localizer) (context : Option RequestContext) (locale : Text) : Prop :=
  (∃ bound, context = some bound ∧ bound.locale = .text locale ∧ locale ≠ []) ∨
  (∀ bound, context = some bound → bound.locale.isEmpty = true) ∧ l.defaultLocale = .text locale

theorem current_of_follows (h : l.Follows context locale) : l.current context = .text locale := by
  obtain ⟨bound, rfl, hlocale, hne⟩ | ⟨hempty, hdefault⟩ := h
  · have hfull : bound.locale.isEmpty = false := by
      rw [hlocale, Value.isEmpty_text, List.isEmpty_eq_false_iff]
      exact hne
    rw [current, hfull, hlocale]
    rfl
  · cases context with
    | none => exact hdefault
    | some bound => rw [current, hempty bound rfl, if_pos rfl, hdefault]

theorem isRtl_of_follows (h : l.Follows context locale) :
    l.isRtl context = .ok (l.rtlLangs.contains (Text.lower (locale.take 2))) := by
  rw [isRtl, current_of_follows h]
  rfl

end Locale.Localizer

/-! ## Runs -/

namespace Session

variable {s t : Session} {plan : Plan} {steps : List Step} {m : Moment}

theorem Control.rtlLangs {operation : Operation} (h : s.Control operation t) :
    t.localizer.rtlLangs = s.localizer.rtlLangs := by
  cases h with
  | quiet _ hsame =>
      obtain ⟨_, _, _, _, rfl⟩ := hsame
      rfl
  | _ => rfl

/-- No run changes the languages from right to left. -/
theorem Leads.rtlLangs [Platform] {ms : List Moment} (h : Leads s ms t) :
    t.localizer.rtlLangs = s.localizer.rtlLangs := by
  refine h.keeps_of_perform (P := fun u => u.localizer.rtlLangs = s.localizer.rtlLangs) ?_ ?_ rfl
  · intro u c hu
    exact hu
  · intro u operation _ hu
    exact (u.control operation).rtlLangs.trans hu

theorem rtlLangs_start (plan : Plan) :
    (start plan).localizer.rtlLangs = plan.settings.rtlLangs := by
  rw [start]
  obtain ⟨_, _, h⟩ := exists_addBundles _ plan.bundles
  rw [h]

theorem rtlLangs_of_mem_moments [Platform] (hm : m ∈ (start plan).moments steps) :
    m.session.localizer.rtlLangs = plan.settings.rtlLangs := by
  obtain ⟨before, after, hsplit⟩ := List.append_of_mem hm
  have hleads := leads_runSteps (start plan) steps
  rw [hsplit] at hleads
  exact hleads.cut.1.rtlLangs.trans (rtlLangs_start plan)

end Session

/-! ## The direction of the current locale -/

namespace Locale.Localizer

open Settings (Lists Maker declaration)

variable {Sources : Type} {maker : Maker Sources} {l : Localizer} {context : Option RequestContext}
variable {listed locale : Text}

/-- What the direction of the script is read from: settings that a maker makes from sources where a
text lists the languages, and the current locale. -/
structure ReadsFrom (maker : Maker Sources) (l : Localizer) (context : Option RequestContext)
    (listed locale : Text) : Prop where
  listed : ∃ sources settings, maker.given? declaration sources .rtlLangs = some (.text listed) ∧
    maker.make declaration sources = .ok settings ∧ l.rtlLangs = settings.rtlLangs
  follows : l.Follows context locale

theorem ReadsFrom.rtlLangs_eq (hmaker : maker.IsDocumented)
    (h : ReadsFrom maker l context listed locale) :
    l.rtlLangs = Settings.languagesOfText listed := by
  obtain ⟨sources, settings, hgiven, hmade, hsame⟩ := h.listed
  exact hsame.trans (hmaker.rtlLangs_eq hgiven rfl hmade)

theorem ReadsFrom.exists_isRtl (hmaker : maker.IsDocumented)
    (h : ReadsFrom maker l context listed locale) :
    ∃ isRtl, l.isRtl context = .ok isRtl ∧ (isRtl = true ↔ Lists listed (locale.take 2)) := by
  refine ⟨_, isRtl_of_follows h.follows, ?_⟩
  rw [List.contains_iff_mem, h.rtlLangs_eq hmaker, Settings.lower_mem_languagesOfText_iff]

end Locale.Localizer

namespace Session

open Settings (HasItemsOf Lists Maker declaration)
open Locale.Localizer (ReadsFrom)

/-- Take a maker of settings that is as documented. A text that lists the languages from right to
left is never at fault, and at every moment of a session with the settings that are made the
direction is read from it and from the current locale. The current locale is written from right to
left exactly if the text lists its first two characters. Among ASCII texts neither the case nor the
blanks, the order and the repetition of the items make a difference, nor does the case of the
locale. -/
theorem isRtl_iff_lists [Platform] {Sources : Type} {maker : Maker Sources}
    (hmaker : maker.IsDocumented) :
    (∀ (sources : Sources) (listed : Text),
      maker.given? declaration sources .rtlLangs = some (.text listed) →
      (∃ settings, maker.make declaration sources = .ok settings ∧
        ∀ plan steps, plan.settings = settings → ∀ m ∈ (start plan).moments steps, ∀ locale,
          m.session.localizer.Follows m.session.context? locale →
          ReadsFrom maker m.session.localizer m.session.context? listed locale) ∨
      ∃ problems, maker.make declaration sources = .error (.invalid problems) ∧
        ∀ problem ∈ problems, problem.1 ≠ .rtlLangs) ∧
    (∀ (l : Localizer) (context : Option RequestContext) (listed locale : Text),
      ReadsFrom maker l context listed locale →
      ∃ isRtl, l.isRtl context = .ok isRtl ∧ (isRtl = true ↔ Lists listed (locale.take 2))) ∧
    ∀ (l other : Localizer) (context otherContext : Option RequestContext)
      (listed otherListed locale otherLocale : Text),
      ReadsFrom maker l context listed locale →
      ReadsFrom maker other otherContext otherListed otherLocale →
      Text.IsAscii listed → Text.IsAscii otherListed → Text.IsAscii locale →
      Text.IsAscii otherLocale → HasItemsOf otherListed listed → HasItemsOf listed otherListed →
      Text.asciiLower locale = Text.asciiLower otherLocale →
      l.isRtl context = other.isRtl otherContext := by
  refine ⟨?_, ?_, ?_⟩
  · intro sources listed hgiven
    obtain ⟨settings, hmade, -⟩ | hfault := hmaker.make_cases hgiven
    · refine .inl ⟨settings, hmade, ?_⟩
      rintro plan steps rfl m hm locale hfollows
      exact ⟨⟨sources, plan.settings, hgiven, hmade, rtlLangs_of_mem_moments hm⟩, hfollows⟩
    · exact .inr hfault
  · intro l context listed locale hreads
    exact hreads.exists_isRtl hmaker
  · intro l other context otherContext listed otherListed locale otherLocale hreads hother
      hlisted hotherListed hlocale hotherLocale hitems hotherItems hsame
    obtain ⟨isRtl, hok, hiff⟩ := hreads.exists_isRtl hmaker
    obtain ⟨otherRtl, hotherok, hotheriff⟩ := hother.exists_isRtl hmaker
    have htake : Text.asciiLower (locale.take 2) = Text.asciiLower (otherLocale.take 2) := by
      rw [Text.asciiLower_take, Text.asciiLower_take, hsame]
    have hlanguage : Text.IsAscii (locale.take 2) := fun c hc =>
      hlocale c (List.mem_of_mem_take hc)
    have hotherLanguage : Text.IsAscii (otherLocale.take 2) := fun c hc =>
      hotherLocale c (List.mem_of_mem_take hc)
    have heq : isRtl = otherRtl := by
      rw [Bool.eq_iff_iff, hiff, hotheriff]
      constructor
      · exact Lists.of_hasItemsOf hlisted hotherListed hlanguage hotherLanguage hitems htake
      · exact Lists.of_hasItemsOf hotherListed hlisted hotherLanguage hlanguage hotherItems
          htake.symm
    rw [hok, hotherok, heq]

/-- A list with blanks, an empty item and a repetition. -/
def spacedList : Text := " HE ,,iw, fa-IR,HE".toList

/-- The same items in another order. -/
def plainList : Text := "iw,fa-ir,he".toList

/-- The plan of a session without files whose settings list some languages. -/
def listedPlan (listed : Text) : Plan where
  files := .flat .empty
  settings := { Settings.default with rtlLangs := Settings.languagesOfText listed }
  loaders := []
  defaultLocale := some "hE-il".toList
  bundles := []

/-- Two lists of the same languages, one read in a scope for a Hebrew locale and the other one for
the same locale by default. -/
theorem isRtl_iff_lists_hebrew :
    let context : RequestContext := ⟨.text "He-IL".toList, .null⟩
    let s := (start (listedPlan spacedList)).enter (.new context)
    let other := (start (listedPlan plainList)).localizer
    Maker.ofLanguages.IsDocumented ∧
      ReadsFrom Maker.ofLanguages s.localizer s.context? spacedList "He-IL".toList ∧
      s.localizer.isRtl s.context? = .ok true ∧
      ReadsFrom Maker.ofLanguages other none plainList "hE-il".toList ∧
      other.isRtl none = .ok true := by
  intro context s other
  obtain ⟨hsessions, hdirection, hsame⟩ := isRtl_iff_lists Settings.isDocumented_ofLanguages
  have hreads : ReadsFrom Maker.ofLanguages s.localizer s.context? spacedList "He-IL".toList := by
    obtain ⟨settings, hmade, hmoments⟩ | ⟨problems, hfault, -⟩ :=
      hsessions (.text spacedList) spacedList rfl
    · have hsettings : (listedPlan spacedList).settings = settings := Except.ok.inj hmade
      have hm : ⟨s, .perform .state⟩ ∈ (start (listedPlan spacedList)).moments
          [.scope (.new context) [.perform .state] false] :=
        List.mem_cons_of_mem _ List.mem_cons_self
      exact hmoments _ _ hsettings _ hm _ (.inl ⟨context, rfl, rfl, List.cons_ne_nil _ _⟩)
    · cases hfault
  have hother : ReadsFrom Maker.ofLanguages other none plainList "hE-il".toList :=
    ⟨⟨.text plainList, _, rfl, rfl, rfl⟩, .inr ⟨nofun, rfl⟩⟩
  have hlists : Settings.Lists spacedList ("He-IL".toList.take 2) :=
    ⟨"HE".toList, ⟨List.cons_ne_nil _ _, " HE ".toList, by decide, by decide⟩, by decide +kernel⟩
  obtain ⟨isRtl, hok, hiff⟩ := hdirection _ _ _ _ hreads
  rw [hiff.2 hlists] at hok
  have heq := hsame _ _ _ _ _ _ _ _ hreads hother (by decide) (by decide) (by decide) (by decide)
    (by decide) (by decide) (by decide)
  exact ⟨Settings.isDocumented_ofLanguages, hreads, hok, hother, heq.symm.trans hok⟩

end Session

end Phrasebook
