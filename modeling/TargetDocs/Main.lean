/-
The program itself: it reads the environment and the files that its command line names, runs, and
prints what the run leaves. Lines of a configured log begin with the time.
-/
import Std.Time.Zoned
import Std.Time.Format
import TargetDocs.Run

namespace TargetDocs

/-- What the system says about a file that cannot be opened. -/
def FileFault.ofSystem : IO.Error → FileFault
  | .noFileOrDirectory .. => .missing
  | .inappropriateType _ 21 _ => .isDirectory
  | .inappropriateType .. => .notDirectory
  | e => .other e.toString.toList

/-- The bytes of a file of the system. -/
def readSystemFile (p : Path) : IO (Except FileFault (List UInt8)) := do
  if p.names.any (·.contains '\x00') then return .error .nullCharacter
  try
    let bytes ← IO.FS.readBinFile (String.ofList p.shown)
    return .ok bytes.toList
  catch e => return .error (.ofSystem e)

/-- The files that a command line names, read once. -/
def readNamedFiles (words : List Text) : IO Reader := do
  let names :=
    match CommandLine.parse words with
    | .ok r => r.files
    | .error _ => []
  let files ← names.mapM fun name => do
    let p := Path.ofText name
    return (p, ← readSystemFile p)
  return fun p => (files.lookup p).getD (.error .missing)

/-- The variables of the environment that matter. -/
def readEnvironment : IO Environment := do
  let look (name : String) : IO (Option Text) := return (← IO.getEnv name).map (·.toList)
  return {
    logLevel := ← look "MAKEDOC_LOG_LEVEL"
    columnWidth := ← look "MAKEDOC_COLUMN_WIDTH"
    pretty := ← look "MAKEDOC_PRETTY"
    noColor := ← look "NO_COLOR" }

/-- How the standard output takes a text and the flush after it. -/
def printOutput (t : Text) : IO Outlet := do
  let stdout ← IO.getStdout
  try stdout.putStr (String.ofList t)
  catch e => return .breaks 1 ⟨e.toString.toList⟩
  try stdout.flush
  catch e => return .full ⟨e.toString.toList⟩
  return .working

/-- The time as lines of the log begin with it. -/
def timeStamp : IO String := do
  let now ← Std.Time.PlainDateTime.now
  return now.format "uuuu-MM-dd HH:mm:ss,SSS" ++ " - "

/-- Prints records to the standard error stream. -/
def printRecords (sink : Sink) (rs : List Record) : IO Unit := do
  let stamp ← if sink.handlers = 0 then pure "" else timeStamp
  for line in rs.flatMap sink.lines do
    IO.eprint (stamp ++ String.ofList line)

/-- Runs the program and prints what the run leaves. If the standard output fails, the outcome is that
of a run with such an output. -/
def runSystem (env : Environment) (words : List Text) : IO Exit := do
  printRecords .initial ((Preferences.noticesOf env).map (·.record))
  let surroundings : Surroundings := {
    preferences := Preferences.ofEnvironment env
    noColor := env.forbidsColor
    read := ← readNamedFiles words }
  let outlet ← printOutput (Run.run surroundings words).output
  let outcome := Run.run { surroundings with outlet } words
  IO.eprint (String.ofList outcome.complaint)
  let sink := (outcome.logLevel.map Sink.initial.configure).getD .initial
  printRecords sink (outcome.notices.map (·.record))
  return outcome.exit

end TargetDocs

/-- Runs the program on the arguments of the process. A crash has exit code 1. -/
def main (args : List String) : IO UInt32 := do
  let exit ← TargetDocs.runSystem (← TargetDocs.readEnvironment) (args.map (·.toList))
  match exit with
  | .code n => return n.toUInt32
  | .crash c =>
    IO.eprintln (String.ofList c.message)
    return 1
