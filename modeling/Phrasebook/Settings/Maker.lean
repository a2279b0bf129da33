import Phrasebook.Settings.Basic

/-!
# Makers of settings

A program declares its settings: what they are where nothing is set, and what it demands of a value.
It leaves it to a maker to look for values among arguments, variables and files, to see to it that
texts are texts, and to put the settings together. What the program relies on there is written down
as `Maker.IsDocumented`.
-/

namespace Phrasebook.Settings

/-- What a program declares of its settings. -/
structure Declaration where
  /-- What comes before the name of a field in the name of the variable that sets it. -/
  variableStart : Text
  /-- The settings where nothing is set. -/
  default : Settings
  /-- The languages from right to left in a value that is given for them, before anything else is
  done with it. -/
  readLanguages : Value → Except Raised (List Text)
  /-- A base language that is already known to be a text, or a message. -/
  checkBaseLang : Text → Except Text Text

/-- The settings as they are declared. -/
def declaration : Declaration where
  variableStart := "LOCALEKIT_".toList
  default := .default
  readLanguages
  checkBaseLang

/-- Why settings are not made. -/
inductive Failure
  /-- Some values are at fault, and there is a message for each. -/
  | invalid (problems : List (Field × Text))
  /-- The reading of the languages went wrong and that is not put down to their value. -/
  | raised (e : Raised)

/-- A maker of settings, for sources of some kind. -/
structure Maker (Sources : Type) where
  /-- The value that the sources have for a field. -/
  given? : Declaration → Sources → Field → Option Value
  /-- Make the settings. -/
  make : Declaration → Sources → Except Failure Settings

/-- What is documented of a maker, as far as the languages from right to left are concerned. -/
structure Maker.IsDocumented {Sources : Type} (maker : Maker Sources) : Prop where
  /-- Texts that the declared reading comes to are the value of the field. -/
  rtlLangs_eq {d : Declaration} {sources : Sources} {given : Value} {texts : List Text}
    {settings : Settings} : maker.given? d sources .rtlLangs = some given →
    d.readLanguages given = .ok texts → maker.make d sources = .ok settings →
    settings.rtlLangs = texts
  /-- A value that the declared reading accepts is not at fault. -/
  field_ne {d : Declaration} {sources : Sources} {given : Value} {texts : List Text}
    {problems : List (Field × Text)} : maker.given? d sources .rtlLangs = some given →
    d.readLanguages given = .ok texts → maker.make d sources = .error (.invalid problems) →
    ∀ problem ∈ problems, problem.1 ≠ .rtlLangs
  /-- Nothing is raised but by the declared reading of the value. -/
  of_raised {d : Declaration} {sources : Sources} {e : Raised} :
    maker.make d sources = .error (.raised e) →
    ∃ given, maker.given? d sources .rtlLangs = some given ∧ d.readLanguages given = .error e

end Phrasebook.Settings
