import Phrasebook.Text.Basic

/-!
# Doubled braces

A template writes a literal brace twice. A doubled opening brace is found from the left. A
doubled closing brace counts only at the end of the text or before pairs of closing braces
and then another character, so of an odd run the last braces pair up and the first one is
left to close a span.
-/

namespace Phrasebook.Template

/-- The pieces of a text between doubled opening braces. -/
def splitOpening : Text → List Text
  | [] => [[]]
  | [c] => [[c]]
  | c :: d :: rest =>
    if c = '{' ∧ d = '{' then [] :: splitOpening rest
    else (splitOpening (d :: rest)).modifyHead (c :: ·)

/-- Whether pairs of closing braces and then another character follow. -/
def closesAfterPairs : Text → Bool
  | [] => false
  | [c] => c != '}'
  | c :: d :: rest => if c = '}' then d == '}' && closesAfterPairs rest else true

/-- Whether two closing braces with this text behind them stand for one literal brace. -/
def closes (rest : Text) : Bool :=
  rest.isEmpty || closesAfterPairs rest

/-- The fragments of a text between the doubled closing braces that count. -/
def splitClosing : Text → List Text
  | [] => [[]]
  | [c] => [[c]]
  | c :: d :: rest =>
    if c = '}' ∧ d = '}' ∧ closes rest then [] :: splitClosing rest
    else (splitClosing (d :: rest)).modifyHead (c :: ·)

end Phrasebook.Template
