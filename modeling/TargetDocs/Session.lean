/-
Sessions: what happens when files change, the environment is read anew, preferences are set, logging is
configured, Makefiles are loaded and the program is run, one after the other.

A session keeps the files, the environment, the preferences and the sink of the log. Each step answers
and leaves a transcript: all its records, and what reached the standard error stream.

Main statements:
* `sink_step` — a step leaves the sink of the log as it is or configures it anew.
-/
import TargetDocs.Run

namespace TargetDocs

/-- The state of a session. -/
structure Session where
  files : FileTree := ⟨[]⟩
  environment : Environment := {}
  preferences : Preferences := {}
  sink : Sink := .initial

namespace Session

/-- A step of a session. -/
inductive Step
  /-- a file or an empty directory comes into being -/
  | write (name : Text) (place : Place)
  | remove (name : Text)
  /-- the environment changes and the preferences are read from it -/
  | environment (env : Environment)
  /-- the preferences that are given change -/
  | set (logLevel : Option Text) (columnWidth : Option Int) (pretty : Option Bool)
  | configureLogging (level : Text)
  | load (paths : List Text)
  /-- the program runs; `origin` is the name that its command line logs under -/
  | main (words : List Text) (outlet : Outlet) (origin : Text)

/-- The answer of a step. -/
inductive Answer
  | done
  | preferences (p : Preferences)
  /-- the threshold of the log -/
  | threshold (n : Nat)
  | loaded (result : Except ReadFault Catalogue)
  | finished (exit : Exit) (output : Text)

/-- What a step leaves beside the state. -/
structure Transcript where
  answer : Answer
  /-- everything that was logged, whether it was written or not -/
  records : List Record := []
  /-- what reached the standard error stream -/
  errorOutput : Text := []

/-- What a run of the program finds in a session. -/
def surroundings (s : Session) (outlet : Outlet) : Surroundings where
  preferences := s.preferences
  noColor := s.environment.forbidsColor
  read := s.files.read
  outlet := outlet

/-- Runs the program. Logging is configured before anything is logged. -/
def runMain (s : Session) (words : List Text) (outlet : Outlet) (origin : Text) :
    Session × Transcript :=
  let outcome := Run.run (s.surroundings outlet) words
  let sink := (outcome.logLevel.map s.sink.configure).getD s.sink
  let records := outcome.notices.map (·.record origin)
  ({ s with sink },
    { answer := .finished outcome.exit outcome.output
      records
      errorOutput := outcome.complaint ++ sink.write records })

/-- Takes a step. -/
def step (s : Session) : Step → Session × Transcript
  | .write name place => ({ s with files := s.files.write name place }, { answer := .done })
  | .remove name => ({ s with files := s.files.remove name }, { answer := .done })
  | .environment env =>
    let preferences := Preferences.ofEnvironment env
    let records := (Preferences.noticesOf env).map (·.record)
    ({ s with environment := env, preferences },
      { answer := .preferences preferences, records, errorOutput := s.sink.write records })
  | .set logLevel columnWidth pretty =>
    let preferences := s.preferences.set logLevel columnWidth pretty
    ({ s with preferences }, { answer := .preferences preferences })
  | .configureLogging level =>
    let sink := s.sink.configure level
    ({ s with sink }, { answer := .threshold sink.threshold })
  | .load paths =>
    let loading := Loading.load s.files.read paths
    let records := loading.notices.map (·.record)
    (s, { answer := .loaded loading.result, records, errorOutput := s.sink.write records })
  | .main words outlet origin => s.runMain words outlet origin

/-- Takes steps one after the other. -/
def runFrom (s : Session) : List Step → Session × List Transcript
  | [] => (s, [])
  | t :: ts =>
    let now := s.step t
    let later := runFrom now.1 ts
    (later.1, now.2 :: later.2)

/-- The sink after a step is the one before it, perhaps configured anew. -/
theorem sink_step (s : Session) (t : Step) :
    (s.step t).1.sink = s.sink ∨ ∃ level, (s.step t).1.sink = s.sink.configure level := by
  cases t with
  | write name place => exact Or.inl rfl
  | remove name => exact Or.inl rfl
  | environment env => exact Or.inl rfl
  | set logLevel columnWidth pretty => exact Or.inl rfl
  | configureLogging level => exact Or.inr ⟨level, rfl⟩
  | load paths => exact Or.inl rfl
  | main words outlet origin =>
    simp only [step, runMain]
    cases (Run.run (s.surroundings outlet) words).logLevel with
    | none => exact Or.inl rfl
    | some level => exact Or.inr ⟨level, rfl⟩

end Session

end TargetDocs
