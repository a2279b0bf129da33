import Phrasebook.Log.Layout
import Phrasebook.Log.TimeFormat

/-!
# Formatters

A formatter lays out records. One that tints puts the name of the level between escape
sequences for its colour while it lays out the record, and takes them away again, since
other formatters use the same record. Levels without a colour are left plain. What a formatter
leaves on a record are the message and the time.
-/

namespace Phrasebook.Log

/-- The colours of levels, by their numbers in escape sequences. -/
def colours : List (Level × Text) := [
  (debug, "36".toList),
  (info, "32".toList),
  (warning, "33".toList),
  (error, "31".toList),
  (critical, "35".toList)]

/-- The character that begins an escape sequence. -/
def escapeChar : Char := Char.ofNat 27

/-- The escape sequence for a number. -/
def escapeSequence (number : Text) : Text :=
  [escapeChar, '['] ++ number ++ ['m']

/-- A text in a colour. -/
def tinted (colour s : Text) : Text :=
  escapeSequence colour ++ s ++ escapeSequence ['0']

/-- A layout, the format of its times, and whether the names of levels are tinted. -/
structure Formatter where
  layout : Text
  timeFormat : Option Text
  tints : Bool
deriving DecidableEq

namespace Formatter

/-- The layout where none is given: the message alone. -/
def plainLayout : Text := "%(message)s".toList

/-- A formatter, if its layout has any directive. -/
def make (layout : Text) (timeFormat : Option Text) (tints : Bool) :
    Except LayoutError Formatter :=
  let layout := if layout.isEmpty then plainLayout else layout
  if hasDirective layout then .ok ⟨layout, timeFormat, tints⟩ else .error (.noDirective layout)

/-- The text of a moment in the format for times, which cannot hold a null character. -/
def timeText (f : Formatter) (m : Moment) : Except LayoutError Text :=
  match f.timeFormat with
  | none => .ok m.plain
  | some format =>
    if format.isEmpty then .ok m.plain
    else if format.contains (Char.ofNat 0) then .error .nullCharacter
    else .ok (m.text format)

/-- The line of a record as it stands. The message is left on the record, and so is the text of
the time if the layout shows it. -/
def line (f : Formatter) (r : Record) : Except LayoutError Text × Record :=
  let r := { r with showsMessage := true }
  if showsTime f.layout then
    match f.timeText r.instant.moment with
    | .error e => (.error e, r)
    | .ok time =>
      let r := { r with shownTime := some time }
      (lineText f.layout r, r)
  else (lineText f.layout r, r)

/-- The colour that a formatter gives to a level. -/
def colour? (f : Formatter) (level : Level) : Option Text :=
  if f.tints then colours.lookup level else none

/-- Lay out a record. The name of its level is tinted on the record itself, and put back whether
the line can be laid out or not. -/
def apply (f : Formatter) (r : Record) : Except LayoutError Text × Record :=
  match f.colour? r.level with
  | none => f.line r
  | some colour =>
    let (line, after) := f.line { r with levelName := tinted colour r.levelName }
    (line, { after with levelName := r.levelName })

end Formatter

end Phrasebook.Log
