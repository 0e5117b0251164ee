/-
A run of the program.

A run reads its command line, configures logging, loads the Makefiles that are named, picks the entries
that are asked for and prints them in the order of their targets, one write for each, with a flush at
the end. Options of the command line come before preferences. What goes wrong after the command line is
read is reported as an error and ends the run with exit code 1, with the few exceptions that a run
crashes on.

Main statements:
* `run_help`, `run_refused`, `run_request` — the three ways in which the command line can be read.
-/
import TargetDocs.CommandLine.Usage
import TargetDocs.Listing
import TargetDocs.Loading

namespace TargetDocs

/-- What a run dies of without a report. -/
inductive Crash
  /-- a path holds a null character -/
  | nullCharacter
  | render (fault : RenderFault)
  /-- the option for the column width is given without a value -/
  | widthMissing
  /-- the preferred width has too many digits for the help -/
  | widthTooLong
  deriving DecidableEq, Repr

def Crash.message : Crash → Text
  | .nullCharacter => "embedded null byte".toList
  | .render fault => fault.message
  | .widthMissing => "'list' object cannot be interpreted as an integer".toList
  | .widthTooLong =>
    "Exceeds the limit (4300 digits) for integer string conversion; use ".toList
      ++ "sys.set_int_max_str_digits() to increase the limit".toList

/-- How a run ends. -/
inductive Exit
  | code (n : Nat)
  | crash (c : Crash)
  deriving DecidableEq, Repr

/-- What a run finds around it. -/
structure Surroundings where
  preferences : Preferences
  /-- the terminal takes no colours -/
  noColor : Bool := false
  read : Reader
  outlet : Outlet := .working

/-- What a run leaves. -/
structure Outcome where
  exit : Exit
  /-- what the standard output took -/
  output : Text := []
  /-- the usage and the complaint, if the command line is refused -/
  complaint : Text := []
  notices : List Notice := []
  /-- the level that logging was configured with; the notices come after that -/
  logLevel : Option Text := none

namespace Run

open CommandLine

/-- The level of the log. -/
def logLevel (p : Preferences) (r : Request) : Text :=
  if r.debug then "DEBUG".toList else p.logLevel

/-- The width of the target column, `none` if the option has no value. -/
def columnWidth? (p : Preferences) : WidthChoice → Option Int
  | .preferred => some p.columnWidth
  | .columns n => some n
  | .missing => none

/-- How entries are shown, given the width of the target column. -/
def style (s : Surroundings) (r : Request) (width : Int) : Style where
  verbose := r.verbose
  colorize := r.pretty.getD s.preferences.pretty
  columnWidth := width
  noColor := s.noColor

/-- The entries to show, all of them or that for one target; `none` if there is no such target. -/
def selection (target : Text) (c : Catalogue) : Option (List Entry) :=
  if target = [] then some c.entries else (c.get? target).map ([·])

/-- The texts of the entries to show. -/
def texts (s : Surroundings) (r : Request) (es : List Entry) : Except Crash (List Text) :=
  match columnWidth? s.preferences r.columnWidth with
  | some width => (Listing.renderAll (style s r width) es).mapError .render
  | none => if es = [] then .ok [] else .error .widthMissing

/-- Prints the texts and flushes. The answer is what was written and what there is to report. -/
def print (o : Outlet) (ts : List Text) : Text × Option Notice :=
  match o.writeAll ts with
  | (written, some fault) => (written, some (.printFailed fault))
  | (written, none) => (written, o.flushFault?.map .flushFailed)

/-- What a loading or a selection comes to: the texts to print, an error to report or a crash. -/
inductive Verdict
  | print (ts : List Text)
  | report (n : Notice)
  | crash (c : Crash)
  deriving DecidableEq, Repr

/-- What to do about the entries of a catalogue. -/
def verdictOf (s : Surroundings) (r : Request) (c : Catalogue) : Verdict :=
  match selection r.target c with
  | none => .report (.noSuchTarget r.target)
  | some es =>
    match texts s r es with
    | .error crash => .crash crash
    | .ok ts => .print ts

/-- What to do about a loading. -/
def verdict (s : Surroundings) (r : Request) : Except ReadFault Catalogue → Verdict
  | .error (.file _ .nullCharacter) => .crash .nullCharacter
  | .error fault => .report (.loadFailed fault)
  | .ok c => verdictOf s r c

/-- The end of a run that has loaded its files. -/
def finish (s : Surroundings) (level : Text) (notices : List Notice) : Verdict → Outcome
  | .crash c => { exit := .crash c, notices, logLevel := some level }
  | .report n => { exit := .code 1, notices := notices ++ [n], logLevel := some level }
  | .print ts =>
    match print s.outlet ts with
    | (output, none) => { exit := .code 0, output, notices, logLevel := some level }
    | (output, some n) =>
      { exit := .code 1, output, notices := notices ++ [n], logLevel := some level }

/-- Does what a command line asks for. -/
def request (s : Surroundings) (r : Request) : Outcome :=
  let level := logLevel s.preferences r
  if r.files = [] then finish s level [] (.report .noMakefiles)
  else
    let loading := Loading.load s.read r.files
    finish s level loading.notices (verdict s r loading.result)

/-- Shows the help. A failing write is not reported. -/
def help (s : Surroundings) : Outcome :=
  { exit := .code 0, output := (s.outlet.writeAll [CommandLine.help s.preferences.columnWidth]).1 }

/-- Refuses a command line. -/
def refuse (fault : UsageFault) : Outcome :=
  { exit := .code 2, complaint := refusal fault }

/-- The help can name the preferred width. -/
def HelpWritable (p : Preferences) : Prop :=
  (Text.decimal p.columnWidth.natAbs).length ≤ Text.maxDigits

instance (p : Preferences) : Decidable (HelpWritable p) := inferInstanceAs (Decidable (_ ≤ _))

/-- Runs the program. The help has to be writable whether it is asked for or not. -/
def run (s : Surroundings) (words : List Text) : Outcome :=
  if HelpWritable s.preferences then
    match parse words with
    | .error .help => help s
    | .error (.refused fault) => refuse fault
    | .ok r => request s r
  else { exit := .crash .widthTooLong }

theorem run_help {s : Surroundings} (hs : HelpWritable s.preferences) {words : List Text}
    (h : parse words = .error .help) : run s words = help s := by
  rw [run, if_pos hs, h]

theorem run_refused {s : Surroundings} (hs : HelpWritable s.preferences) {words : List Text}
    {fault : UsageFault} (h : parse words = .error (.refused fault)) :
    run s words = refuse fault := by
  rw [run, if_pos hs, h]

theorem run_request {s : Surroundings} (hs : HelpWritable s.preferences) {words : List Text}
    {r : Request} (h : parse words = .ok r) : run s words = request s r := by
  rw [run, if_pos hs, h]

end Run

end TargetDocs
