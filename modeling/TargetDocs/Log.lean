/-
What is reported, and what of it is written.

A notice says what happened; its level, the part of the program that it comes from and its wording
follow from that. A sink writes the records that reach its threshold. Before logging is configured a
sink has no handler and writes warnings and errors bare; afterwards every handler writes every record
at or above the threshold with its origin and its level.

Main statements:
* `handlers_configure`, `threshold_configure_le` — configuring never installs a second handler and
  never raises the threshold above that of errors.
-/
import TargetDocs.Files
import TargetDocs.Makefile.Scan
import TargetDocs.Stream

namespace TargetDocs

/-- How grave a notice is. -/
inductive Level
  | debug
  | warning
  | error
  deriving DecidableEq, Repr

namespace Level

/-- Levels are compared by their numbers. -/
def number : Level → Nat
  | .debug => 10
  | .warning => 30
  | .error => 40

def name : Level → Text
  | .debug => "DEBUG".toList
  | .warning => "WARNING".toList
  | .error => "ERROR".toList

/-- The names that a threshold can be asked for by, with their numbers. -/
def known : List (Text × Nat) :=
  [("CRITICAL".toList, 50), ("FATAL".toList, 50), ("ERROR".toList, 40), ("WARN".toList, 30),
    ("WARNING".toList, 30), ("INFO".toList, 20), ("DEBUG".toList, 10), ("NOTSET".toList, 0)]

/-- The number of a level name. -/
def number? (name : Text) : Option Nat := known.lookup name

end Level

/-- The part of the program that a notice comes from. -/
inductive Area
  | scanner
  | documents
  | settings
  | commandLine
  deriving DecidableEq, Repr

/-- Something worth reporting. -/
inductive Notice
  /-- a comment block is discarded because of the line of that number -/
  | discardedAt (line : Nat)
  | discardedAtEnd
  | loading (p : Path)
  | goalFound (p : Path) (goal : Text)
  | loaded (count : Nat) (p : Path)
  /-- the environment asks for a level that there is none of -/
  | unknownLevel (value : Text)
  | widthNotInteger (value : Text)
  | widthNotPositive (value : Text)
  | noMakefiles
  | loadFailed (fault : ReadFault)
  | noSuchTarget (target : Text)
  | printFailed (fault : StreamFault)
  | flushFailed (fault : StreamFault)
  deriving DecidableEq, Repr

namespace Notice

def level : Notice → Level
  | .discardedAt _ | .discardedAtEnd | .loading _ | .goalFound _ _ | .loaded _ _ => .debug
  | .unknownLevel _ | .widthNotInteger _ | .widthNotPositive _ => .warning
  | .noMakefiles | .loadFailed _ | .noSuchTarget _ | .printFailed _ | .flushFailed _ => .error

def area : Notice → Area
  | .discardedAt _ | .discardedAtEnd => .scanner
  | .loading _ | .goalFound _ _ | .loaded _ _ => .documents
  | .unknownLevel _ | .widthNotInteger _ | .widthNotPositive _ => .settings
  | .noMakefiles | .loadFailed _ | .noSuchTarget _ | .printFailed _ | .flushFailed _ => .commandLine

/-- A variable of the environment whose value is not used, and why. -/
private def ignoring (name value reason : Text) : Text :=
  "Ignoring ".toList ++ name ++ '=' :: Text.quoted value ++ ": ".toList ++ reason

def message : Notice → Text
  | .discardedAt line =>
    "Discarding comment block not followed by a target at line ".toList ++ Text.decimal line
  | .discardedAtEnd => "Discarding comment block at end of input".toList
  | .loading p => "Loading documentation from ".toList ++ p.shown
  | .goalFound p goal =>
    "Default goal of ".toList ++ p.shown ++ " is ".toList ++ Text.quoted goal
  | .loaded count p =>
    "Found ".toList ++ Text.decimal count ++ " documented targets in ".toList ++ p.shown
  | .unknownLevel value =>
    ignoring "MAKEDOC_LOG_LEVEL".toList value "unknown logging level".toList
  | .widthNotInteger value => ignoring "MAKEDOC_COLUMN_WIDTH".toList value "not an integer".toList
  | .widthNotPositive value =>
    ignoring "MAKEDOC_COLUMN_WIDTH".toList value "must be positive".toList
  | .noMakefiles => "no makefiles provided for parsing".toList
  | .loadFailed fault => "failed to load makefiles: ".toList ++ fault.message
  | .noSuchTarget target => "target: ".toList ++ target ++ ", doesn't exist".toList
  | .printFailed fault => "failed to format help: ".toList ++ fault.reason
  | .flushFailed fault => "failed to flush help: ".toList ++ fault.reason

end Notice

/-- A notice on its way to the log. -/
structure Record where
  level : Level
  origin : Text
  message : Text
  deriving DecidableEq, Repr

/-- The name under which a part of the program logs; the command line has one given to it. -/
def Area.origin (program : Text) : Area → Text
  | .scanner => "makedoc.parsing.scanner".toList
  | .documents => "makedoc.documents".toList
  | .settings => "makedoc.settings".toList
  | .commandLine => program

/-- The name under which the command line usually logs. -/
def Area.commandLineOrigin : Text := "makedoc.cli".toList

def Notice.record (n : Notice) (program : Text := Area.commandLineOrigin) : Record :=
  ⟨n.level, n.area.origin program, n.message⟩

/-- Where records go. -/
structure Sink where
  /-- the number of installed handlers, each of which writes every record -/
  handlers : Nat
  /-- the least number of a level that is written -/
  threshold : Nat
  deriving DecidableEq, Repr

namespace Sink

/-- Before logging is configured. -/
def initial : Sink := ⟨0, Level.warning.number⟩

/-- Asks for a level by name. The first time a handler is installed. An unknown name means warnings,
and errors are always written. -/
def configure (s : Sink) (name : Text) : Sink where
  handlers := if s.handlers = 0 then 1 else s.handlers
  threshold := min ((Level.number? name).getD Level.warning.number) Level.error.number

/-- The line of a record that a handler writes. -/
def formatted (r : Record) : Text :=
  r.origin ++ " - ".toList ++ r.level.name ++ " - ".toList ++ r.message ++ ['\n']

/-- The lines that are written for a record. -/
def lines (s : Sink) (r : Record) : List Text :=
  if r.level.number < s.threshold then []
  else if s.handlers = 0 then
    if r.level.number < Level.warning.number then [] else [r.message ++ ['\n']]
  else List.replicate s.handlers (formatted r)

/-- What is written for records. -/
def write (s : Sink) (rs : List Record) : Text := (rs.flatMap s.lines).flatten

/-- Configuring never installs a second handler. -/
theorem handlers_configure {s : Sink} (h : s.handlers ≤ 1) (name : Text) :
    (s.configure name).handlers = 1 := by
  simp only [configure]
  split <;> omega

/-- The threshold is never above that of errors. -/
theorem threshold_configure_le (s : Sink) (name : Text) :
    (s.configure name).threshold ≤ Level.error.number :=
  Nat.min_le_right _ _

end Sink

end TargetDocs
