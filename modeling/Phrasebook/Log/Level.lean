import Phrasebook.Text.Case

/-!
# Log levels

A level is an integer, and a few of them have names. A name may be read in any case; two
levels have a second name by which they can be read but not written.
-/

namespace Phrasebook.Log

/-- The weight of a record. Zero stands for no level at all. -/
abbrev Level := Int

/-- Detail that helps to find a mistake. -/
def debug : Level := 10

/-- What a program does in its normal course. -/
def info : Level := 20

/-- What is unexpected but harmless. -/
def warning : Level := 30

/-- What made an operation fail. -/
def error : Level := 40

/-- What makes the program fail. -/
def critical : Level := 50

/-- The names of the levels, the name that is written first. -/
def levelNames : List (Text × Level) := [
  ("CRITICAL".toList, critical),
  ("FATAL".toList, critical),
  ("ERROR".toList, error),
  ("WARNING".toList, warning),
  ("WARN".toList, warning),
  ("INFO".toList, info),
  ("DEBUG".toList, debug),
  ("NOTSET".toList, 0)]

/-- The name of a level. A level without one is named by its number. -/
def levelName (level : Level) : Text :=
  match levelNames.find? (·.2 == level) with
  | some (name, _) => name
  | none => "Level ".toList ++ Text.ofInt level

/-- The level of a name in any case. -/
def levelOfName? (name : Text) : Option Level :=
  levelNames.lookup (Text.upper name)

end Phrasebook.Log
