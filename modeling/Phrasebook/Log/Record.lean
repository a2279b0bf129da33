import Phrasebook.Dict
import Phrasebook.Log.Level
import Phrasebook.Log.Moment
import Phrasebook.Path
import Phrasebook.Value.Basic

/-!
# Log records

What is known of a message when it is laid out: the logger, the level and the message itself, the
place in a program that it comes from, and what ran there and when. A record is one mapping from
names to values, which layouts read by name or as a whole. Formatters leave the message and the
time there for those that come after them.
-/

namespace Phrasebook.Log

/-- A place in a program. -/
structure Origin where
  /-- The path of the file. -/
  pathname : Text
  /-- The number of the line, which has 31 bits. -/
  line : Fin 2147483648
  /-- The name of the function, if it is known. -/
  function : Option Text

/-- The place of what comes from nowhere that is known. -/
def Origin.unknown : Origin :=
  ⟨"(unknown file)".toList, 0, some "(unknown function)".toList⟩

/-- What runs at a moment. -/
structure Instant where
  /-- The moment in local time. -/
  moment : Moment
  /-- The seconds since the epoch. -/
  created : Binary64
  /-- The milliseconds since logging was loaded. -/
  relativeCreated : Binary64
  thread : Option Nat
  threadName : Option Text
  processName : Option Text
  process : Option Nat

/-- The epoch, of which nothing else is known. -/
def Instant.epoch : Instant :=
  ⟨.epoch, .zero false, .zero false, none, none, none, none⟩

/-- A message for a logger, with the place that it comes from and the time. -/
structure Entry where
  name : Text
  level : Level
  /-- The message as it is given, with the arguments that are to be filled in. -/
  msg : Text
  args : Value
  /-- The message as it reads. -/
  message : Text
  origin : Origin
  instant : Instant

/-- A message without arguments. -/
def Entry.ofMessage (name : Text) (level : Level) (message : Text) (origin : Origin)
    (instant : Instant) : Entry :=
  ⟨name, level, message, .tuple [], message, origin, instant⟩

/-- A log record. The name of its level is kept apart from the level, so that a formatter
can dress it up. -/
structure Record extends Entry where
  levelName : Text
  /-- Whether a formatter has left the message on the record. -/
  showsMessage : Bool
  /-- The text of the time that a formatter has left on the record. -/
  shownTime : Option Text

/-- The field that shows the time. -/
def timeField : Text := "asctime".toList

/-- The field that shows the name of a level. -/
def levelField : Text := "levelname".toList

/-- A text or nothing. -/
def textOrNull : Option Text → Value
  | none => .null
  | some s => .text s

/-- A number or nothing. -/
def numberOrNull : Option Nat → Value
  | none => .null
  | some n => .integer n

namespace Record

/-- The record of a message, with the plain name of its level. -/
def of (e : Entry) : Record :=
  ⟨e, Log.levelName e.level, false, none⟩

/-- The name of the file. -/
def filename (r : Record) : Text :=
  Path.basename r.origin.pathname

/-- The fields before the name of the level. -/
def fieldsBefore (r : Record) : Dict Text Value := [
  ("name".toList, .text r.name),
  ("msg".toList, .text r.msg),
  ("args".toList, r.args)]

/-- The fields behind the name of the level, but for those that formatters leave. There is never
an exception. -/
def fieldsBehind (r : Record) : Dict Text Value := [
  ("levelno".toList, .integer r.level),
  ("pathname".toList, .text r.origin.pathname),
  ("filename".toList, .text r.filename),
  ("module".toList, .text (Path.stem r.filename)),
  ("exc_info".toList, .null),
  ("exc_text".toList, .null),
  ("stack_info".toList, .null),
  ("lineno".toList, .integer r.origin.line),
  ("funcName".toList, textOrNull r.origin.function),
  ("created".toList, .float r.instant.created),
  ("msecs".toList, .float (Binary64.ofQuotient false r.instant.moment.millisecond 1)),
  ("relativeCreated".toList, .float r.instant.relativeCreated),
  ("thread".toList, numberOrNull r.instant.thread),
  ("threadName".toList, textOrNull r.instant.threadName),
  ("processName".toList, textOrNull r.instant.processName),
  ("process".toList, numberOrNull r.instant.process)]

/-- The fields that formatters have left. -/
def fieldsLeft (r : Record) : Dict Text Value :=
  (if r.showsMessage then [("message".toList, .text r.message)] else []) ++
    (r.shownTime.map fun time => (timeField, Value.text time)).toList

/-- The fields of a record in their order. -/
def fields (r : Record) : Dict Text Value :=
  r.fieldsBefore ++ (levelField, .text r.levelName) :: (r.fieldsBehind ++ r.fieldsLeft)

/-- The value of a field. -/
def field? (r : Record) (name : Text) : Option Value :=
  Dict.get? r.fields name

/-- A record as one value. -/
def whole (r : Record) : Value :=
  .mapping r.fields

end Record

end Phrasebook.Log
