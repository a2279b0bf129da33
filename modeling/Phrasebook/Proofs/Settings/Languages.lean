import Phrasebook.Proofs.Text.LowerCase
import Phrasebook.Proofs.Text.Pieces
import Phrasebook.Settings.Maker

/-!
# Lists of languages

A text that lists the languages from right to left is never at fault: settings are made with the
languages in it, or other fields are to blame. What a text lists are its items up to case.
-/

namespace Phrasebook.Settings

variable {listed item language : Text}

/-- An item of a text with commas: what stands between two of them without the blanks around it,
unless nothing is left. -/
def IsItem (listed item : Text) : Prop :=
  item ≠ [] ∧ ∃ piece ∈ Text.splitOn ',' listed, Text.trim Text.isBlank piece = item

/-- A text lists a language: one of its items differs from it in nothing but case. -/
def Lists (listed language : Text) : Prop :=
  ∃ item, IsItem listed item ∧ Text.lower item = Text.lower language

/-- The items of a text are items of another one, but for the case of ASCII letters. -/
def HasItemsOf (other listed : Text) : Prop :=
  ∀ item, IsItem listed item →
    ∃ same, IsItem other same ∧ Text.asciiLower same = Text.asciiLower item

/-- The items of a text in their order. -/
def items (listed : Text) : List Text :=
  ((Text.splitOn ',' listed).map (Text.trim Text.isBlank)).filter (!·.isEmpty)

theorem mem_items_iff : item ∈ items listed ↔ IsItem listed item := by
  simp [items, IsItem, and_comm]

instance (other listed : Text) : Decidable (HasItemsOf other listed) :=
  decidable_of_iff (∀ item ∈ items listed, ∃ same ∈ items other,
    Text.asciiLower same = Text.asciiLower item) (by simp only [HasItemsOf, mem_items_iff])

theorem lower_mem_languagesOfText_iff :
    Text.lower language ∈ languagesOfText listed ↔ Lists listed language := by
  change Text.lower language ∈ (items listed).map Text.lower ↔ _
  simp only [List.mem_map, mem_items_iff, Lists]

theorem IsItem.isAscii (h : IsItem listed item) (hlisted : Text.IsAscii listed) :
    Text.IsAscii item := by
  obtain ⟨-, piece, hpiece, rfl⟩ := h
  intro c hc
  exact hlisted c ((Text.infix_of_mem_splitOn hpiece).subset ((Text.trim_isInfix _ _).subset hc))

theorem lists_iff_of_isAscii (hlisted : Text.IsAscii listed) (hlanguage : Text.IsAscii language) :
    Lists listed language ↔
      ∃ item, IsItem listed item ∧ Text.asciiLower item = Text.asciiLower language := by
  rw [Lists, Text.lower_of_isAscii hlanguage]
  constructor
  · rintro ⟨item, hitem, heq⟩
    rw [Text.lower_of_isAscii (hitem.isAscii hlisted)] at heq
    exact ⟨item, hitem, heq⟩
  · rintro ⟨item, hitem, heq⟩
    rw [← Text.lower_of_isAscii (hitem.isAscii hlisted)] at heq
    exact ⟨item, hitem, heq⟩

/-- What an ASCII text lists depends on its items up to case. -/
theorem Lists.of_hasItemsOf {other otherLanguage : Text} (hlisted : Text.IsAscii listed)
    (hother : Text.IsAscii other) (hlanguage : Text.IsAscii language)
    (hotherLanguage : Text.IsAscii otherLanguage) (hitems : HasItemsOf other listed)
    (hsame : Text.asciiLower language = Text.asciiLower otherLanguage) (h : Lists listed language) :
    Lists other otherLanguage := by
  rw [lists_iff_of_isAscii hlisted hlanguage] at h
  rw [lists_iff_of_isAscii hother hotherLanguage, ← hsame]
  obtain ⟨item, hitem, heq⟩ := h
  obtain ⟨same, hsameItem, hcase⟩ := hitems item hitem
  exact ⟨same, hsameItem, hcase.trans heq⟩

/-! ## Settings with a list of languages -/

section

variable {Sources : Type} {maker : Maker Sources} {sources : Sources}

/-- Where a text lists the languages, settings are made with those languages, or they are not made
because of other fields. -/
theorem Maker.IsDocumented.make_cases (h : maker.IsDocumented)
    (hgiven : maker.given? declaration sources .rtlLangs = some (.text listed)) :
    (∃ settings, maker.make declaration sources = .ok settings ∧
      settings.rtlLangs = languagesOfText listed) ∨
    ∃ problems, maker.make declaration sources = .error (.invalid problems) ∧
      ∀ problem ∈ problems, problem.1 ≠ .rtlLangs := by
  have hread : declaration.readLanguages (.text listed) = .ok (languagesOfText listed) := rfl
  cases hmake : maker.make declaration sources with
  | ok settings => exact .inl ⟨settings, rfl, h.rtlLangs_eq hgiven hread hmake⟩
  | error failure =>
      cases failure with
      | invalid problems => exact .inr ⟨problems, rfl, h.field_ne hgiven hread hmake⟩
      | raised e =>
          obtain ⟨given, hsame, hraised⟩ := h.of_raised hmake
          rw [hgiven] at hsame
          cases hsame
          rw [hread] at hraised
          cases hraised

end

/-! ## Settings where nothing else is given -/

/-- The maker of settings that is given a value for the languages and nothing else. -/
def Maker.ofLanguages : Maker Value where
  given? _ given field := if field = .rtlLangs then some given else none
  make d given :=
    match d.readLanguages given with
    | .ok rtlLangs => .ok { d.default with rtlLangs }
    | .error (.badValue message) => .error (.invalid [(.rtlLangs, message)])
    | .error (.notIterable kind) => .error (.raised (.notIterable kind))

theorem isDocumented_ofLanguages : Maker.ofLanguages.IsDocumented where
  rtlLangs_eq {d sources given texts settings} hgiven hread hmake := by
    cases hgiven
    simp only [Maker.ofLanguages, hread] at hmake
    cases hmake
    rfl
  field_ne {d sources given texts problems} hgiven hread hmake := by
    cases hgiven
    simp only [Maker.ofLanguages, hread] at hmake
    cases hmake
  of_raised {d sources e} hmake := by
    refine ⟨sources, rfl, ?_⟩
    cases hread : d.readLanguages sources with
    | ok texts =>
        simp only [Maker.ofLanguages, hread] at hmake
        cases hmake
    | error raised =>
        cases raised with
        | badValue message =>
            simp only [Maker.ofLanguages, hread] at hmake
            cases hmake
        | notIterable kind =>
            simp only [Maker.ofLanguages, hread] at hmake
            cases hmake
            rfl

end Phrasebook.Settings
