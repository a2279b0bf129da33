import Phrasebook.Text.CaseTable

/-!
# Full case mapping

Lower and upper case of whole texts. A character may map to several characters, and a
capital sigma becomes the final form at the end of a word: some cased character stands
before it and none after it, where ignorable characters on either side are passed over.
-/

namespace Phrasebook.Text

/-- The image of a code point under the first run that maps it, or itself. -/
def mapCase (runs : List CaseRun) (c : Char) : Char :=
  match runs.find? (·.maps c.toNat) with
  | some run => Char.ofNat (c.toNat + run.shift).toNat
  | none => c

/-- Lower case of one character outside any word. Only the dotted capital I has a
mapping of two characters. -/
def lowerChar (c : Char) : Text :=
  if c.toNat = 304 then ['i', Char.ofNat 775] else [mapCase lowerRuns c]

/-- Upper case of one character. -/
def upperChar (c : Char) : Text :=
  match upperSequences.find? (·.1 == c.toNat) with
  | some (_, codes) => codes.map Char.ofNat
  | none => [mapCase upperRuns c]

/-- Whether the first character that is not ignorable is a cased one. -/
def startsCased (s : Text) : Bool :=
  match s.dropWhile caseIgnorableRanges.contains with
  | [] => false
  | c :: _ => casedRanges.contains c

/-- Lower case of what follows `seen`, which is given from its end backwards. -/
def lowerAfter (seen : Text) : Text → Text
  | [] => []
  | c :: rest =>
    let lowered :=
      if c = 'Σ' then [if startsCased seen && !startsCased rest then 'ς' else 'σ']
      else lowerChar c
    lowered ++ lowerAfter (c :: seen) rest

/-- Lower case of a text. -/
def lower (s : Text) : Text :=
  lowerAfter [] s

/-- Upper case of a text. -/
def upper (s : Text) : Text :=
  s.flatMap upperChar

@[simp] theorem lower_nil : lower [] = [] := rfl

@[simp] theorem upper_nil : upper [] = [] := rfl

@[simp] theorem upper_append (s t : Text) : upper (s ++ t) = upper s ++ upper t := by
  simp [upper]

end Phrasebook.Text
