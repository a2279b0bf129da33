import Phrasebook.Log.Formatter
import Phrasebook.Log.Hierarchy
import Phrasebook.Log.Rotation
import Phrasebook.Settings.Basic

/-!
# The registry of loggers

Loggers, the handlers at their root, and the files that handlers write to. A record is
emitted if its level is positive and at least that of its logger, which is the logger's own
level or that of the nearest logger above it that has one. What was decided for a logger and a
level is remembered until a level is set. A handler then writes the record if the level is at
least that of the handler. Setting up the registry replaces the handlers and sets the levels of
the library's own loggers; if the directory or the file for log lines cannot be made, what was
set before that stays.
-/

namespace Phrasebook.Log

/-- Where a handler writes to. -/
inductive Sink
  | console
  /-- The file at a place, and its backups beside it. -/
  | file (place : Tree.Place)
deriving DecidableEq

/-- A handler at the root of the loggers. -/
structure Handler where
  sink : Sink
  level : Level
  formatter : Formatter
deriving DecidableEq

/-- The state of logging. -/
structure Registry where
  settings : Settings
  /-- Whether the console is a terminal. -/
  terminal : Bool
  now : Instant
  /-- The place that the set-up reports from. -/
  reporter : Origin
  rootLevel : Level
  handlers : List Handler
  /-- The levels of the loggers that have one of their own. -/
  levels : Dict Text Level
  /-- The names of the loggers that have been asked for. -/
  known : List Text
  /-- Whether loggers emit records of a level, as far as that was decided since a level was set. -/
  decided : Dict (Text × Level) Bool
  files : Tree Text

namespace Registry

/-- The loggers that the library itself writes to from the start. -/
def ownLoggers : List Text :=
  ["localekit.core.i18n".toList, "localekit.infra.resources".toList]

/-- The logger that the set-up writes to. -/
def setupLogger : Text := "localekit.core.logging_config".toList

/-- The registry before it is set up. -/
def initial (settings : Settings) (terminal : Bool) (now : Instant) (reporter : Origin)
    (files : Tree Text) : Registry where
  settings
  terminal
  now
  reporter
  rootLevel := warning
  handlers := []
  levels := []
  known := ownLoggers
  decided := []
  files

/-- The name of the root logger, by which it can be asked for. -/
def rootName : Text := "root".toList

/-- Whether a name means the root logger. -/
def isRoot (name : Text) : Bool :=
  name.isEmpty || name == rootName

/-- The name that a logger has itself. -/
def properName (name : Text) : Text :=
  if isRoot name then rootName else name

/-- A logger's own level. -/
def ownLevel (s : Registry) (name : Text) : Level :=
  if isRoot name then s.rootLevel else (s.levels.get? name).getD 0

/-- The level from which a logger emits. -/
def effectiveLevel (s : Registry) (name : Text) : Level :=
  if isRoot name then s.rootLevel
  else
    match ((name :: chain s.known name).map s.ownLevel).find? (· != 0) with
    | some level => level
    | none => s.rootLevel

/-- Ask for a logger. -/
def ask (s : Registry) (name : Text) : Registry :=
  if isRoot name || s.known.contains name then s else { s with known := s.known ++ [name] }

/-- Give a logger a level of its own. -/
def setLevel (s : Registry) (name : Text) (level : Level) : Registry :=
  { s.ask name with levels := s.levels.put name level, decided := [] }

/-- Whether the levels that are set let a logger emit records of a level. -/
def reaches (s : Registry) (name : Text) (level : Level) : Bool :=
  0 < level && s.effectiveLevel name ≤ level

/-- Whether a logger emits records of a level. What was decided once stands, even if a logger
that was asked for since then has a say in it. -/
def emits (s : Registry) (name : Text) (level : Level) : Bool :=
  (s.decided.get? (properName name, level)).getD (s.reaches name level)

/-- Remember whether a logger emits records of a level. -/
def settle (s : Registry) (name : Text) (level : Level) : Registry :=
  { s with decided := s.decided.put (properName name, level) (s.emits name level) }

/-- Open a file for lines, which is made unless it is there. -/
def openFile (files : Tree Text) (path : Text) : Except FileError (Tree Text) :=
  match files.content path with
  | .ok _ => .ok files
  | .error (.notFound _) => .ok (files.write path [])
  | .error e => .error e

/-- Let a handler write a record. The result is what the console shows, the files, and the record
as the handler leaves it. For a file the record is laid out once to see whether there is room, and
again to be written. -/
def write (handler : Handler) (files : Tree Text) (record : Record) : Text × Tree Text × Record :=
  match handler.formatter.apply record with
  | (.error _, record) => ([], files, record)
  | (.ok line, record) =>
    match handler.sink with
    | .console => (line ++ ['\n'], files, record)
    | .file place =>
      match makeRoom files place (line ++ ['\n']) with
      | (false, files) => ([], files, record)
      | (true, files) =>
        match handler.formatter.apply record with
        | (.error _, record) => ([], files, record)
        | (.ok line, record) => ([], appendLine files place (line ++ ['\n']), record)

/-- Let handlers write a record one after the other. The result is what the console shows,
and the files. -/
def handle (files : Tree Text) (record : Record) : List Handler → Text × Tree Text
  | [] => ([], files)
  | handler :: rest =>
    if record.level < handler.level then handle files record rest
    else
      let (shown, files, record) := write handler files record
      let (more, files) := handle files record rest
      (shown ++ more, files)

/-- Log a message. The result is what the console shows, and the registry after it. There is no
record of a level that has too many digits to be written. -/
def log (s : Registry) (e : Entry) : Text × Registry :=
  let s := (s.ask e.name).settle e.name e.level
  if s.emits e.name e.level && Value.hasText (.integer e.level) then
    let record := Record.of { e with name := properName e.name }
    let (shown, files) := handle s.files record s.handlers
    (shown, { s with files })
  else ([], s)

/-- The lines on the console. -/
def consoleFormatter (terminal : Bool) : Formatter where
  layout := "%(asctime)s %(levelname)-8s %(name)s - %(message)s".toList
  timeFormat := some "%H:%M:%S".toList
  tints := terminal

/-- The lines in a file, with the place in a program that a message comes from. -/
def fileFormatter : Formatter where
  layout :=
    "%(asctime)s [%(levelname)s] %(name)s (%(filename)s:%(lineno)d) - %(message)s".toList
  timeFormat := some "%Y-%m-%d %H:%M:%S".toList
  tints := false

/-- The name of the file of a day. -/
def dayFile (now : Moment) : Text :=
  "localekit_".toList ++ now.text "%Y%m%d".toList ++ ".log".toList

/-- The path of the file of a day in a directory. -/
def logPath (now : Moment) (directory : Text) : Text :=
  Path.join (Path.normal directory) (dayFile now)

/-- The levels of the library's own loggers. Loading resources says much at the level of
details, so it has to be asked for. -/
def componentLevels : List (Text × Level) := [
  ("localekit".toList, info),
  ("localekit.core".toList, info),
  ("localekit.infra".toList, warning)]

/-- What the set-up is told. -/
structure Request where
  /-- Whether to write a file, if that is not left to the settings. -/
  logFile : Option Bool
  debug : Bool
  directory : Text

/-- The directory for log files where none is given. -/
def defaultDirectory : Text := "logs".toList

/-- Whether a file is asked for. -/
def wantsFile (s : Registry) (r : Request) : Bool :=
  r.logFile.getD s.settings.logFile

/-- The level of the root: the most talkative one for debugging, else that of the settings,
or the usual one if the settings name none. -/
def chosenLevel (s : Registry) (r : Request) : Level :=
  if r.debug then Log.debug else (levelOfName? s.settings.logLevel).getD info

/-- The first part of the set-up: the level of the root, and the console alone. -/
def resetRoot (s : Registry) (level : Level) : Registry :=
  { s with
    rootLevel := level
    handlers := [⟨.console, level, consoleFormatter s.terminal⟩]
    decided := [] }

/-- Make the directory and the file for log lines, and add a handler for it. The result is the
error if there is one, and the registry after it. -/
def addFile (s : Registry) (directory : Text) : Option FileError × Registry :=
  match s.files.makeDirectory directory with
  | .error e => (some e, s)
  | .ok files =>
    let path := logPath s.now.moment directory
    match openFile files path with
    | .error e => (some e, { s with files })
    | .ok files =>
      (none, { s with
        files
        handlers := s.handlers ++ [⟨.file (Tree.place path), Log.debug, fileFormatter⟩] })

/-- Give loggers levels of their own one after the other: those listed, or all of them the most
talkative one. -/
def setLevels (s : Registry) (debug : Bool) (pairs : List (Text × Level)) : Registry :=
  pairs.foldl (fun s (name, level) => s.setLevel name (if debug then Log.debug else level)) s

/-- Set the levels of the library's own loggers. -/
def setComponents (s : Registry) (debug : Bool) : Registry :=
  s.setLevels debug componentLevels

/-- What the set-up reports when it is done. -/
def report (s : Registry) (level : Level) (withFile : Bool) : Entry :=
  let file := if withFile then "ENABLED".toList else "DISABLED".toList
  { name := setupLogger
    level := info
    msg := "Logging configured (console=%s, file=%s)".toList
    args := .tuple [.text (levelName level), .text file]
    message := "Logging configured (console=".toList ++ levelName level ++ ", file=".toList ++
      file ++ ")".toList
    origin := s.reporter
    instant := s.now }

/-- Set up the registry. The result is the error if there is one, what the console shows,
and the registry after it. -/
def setup (s : Registry) (r : Request) : Option FileError × Text × Registry :=
  let level := s.chosenLevel r
  let reset := s.resetRoot level
  let (failed, ready) := if s.wantsFile r then reset.addFile r.directory else (none, reset)
  match failed with
  | some e => (some e, [], ready)
  | none =>
    (none, (ready.setComponents r.debug).log (s.report level (s.wantsFile r)))

/-- The own and the effective level of loggers that are asked for one after the other. -/
def levelsOf (s : Registry) : List Text → List (Text × Level × Level) × Registry
  | [] => ([], s)
  | name :: rest =>
    let s := s.ask name
    let (levels, s') := s.levelsOf rest
    ((name, s.ownLevel name, s.effectiveLevel name) :: levels, s')

/-- The files in a directory with their texts, in the order of their names. -/
def filesIn (s : Registry) (directory : Text) : Except FileError (List (Text × Text)) :=
  match s.files.list directory with
  | .error e => .error e
  | .ok names =>
    (names.mergeSort fun a b => decide (¬ b < a)).mapM fun name =>
      (s.files.content (Path.join directory name)).map (name, ·)

end Registry

end Phrasebook.Log
