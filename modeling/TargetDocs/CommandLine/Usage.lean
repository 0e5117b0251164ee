/-
What the command line says about itself: its usage, its help and its complaints.

The help names the width of the target column that is used by default. A line of the help has room for
a certain number of characters; a number that does not fit behind the words before it goes to a line of
its own, and one that fits no line is broken wherever the room ends.
-/
import TargetDocs.CommandLine.Request

namespace TargetDocs.CommandLine

/-- Lines with a line feed after each. -/
def textOf (ls : List String) : Text := ls.flatMap fun l => l.toList ++ ['\n']

/-- The usage of the program. -/
def usage : Text :=
  textOf
    ["usage: makedoc [-h] [-target TARGET] [-verbose]",
      "               [-pretty | --pretty | --no-pretty]",
      "               [--column-width COLUMN_WIDTH] [--debug]",
      "               [FILE ...]"]

/-- The help before the words that explain the column width. -/
def helpHead : Text :=
  textOf
    ["",
      "Show the documentation of Makefile targets, taken from the '##' comments above",
      "them",
      "",
      "positional arguments:",
      "  FILE                  Makefiles to read, later files override targets from",
      "                        earlier ones",
      "",
      "options:",
      "  -h, --help            show this help message and exit",
      "  -target TARGET, --target TARGET",
      "                        only show documentation for given target",
      "  -verbose, --verbose   show verbose output",
      "  -pretty, --pretty, --no-pretty",
      "                        make the output pretty (default from MAKEDOC_PRETTY)",
      "  --column-width COLUMN_WIDTH"]

/-- The help after the words that explain the column width. -/
def helpTail : Text := textOf ["  --debug               Enable debug logging"]

/-- The blanks before an explanation. -/
def helpIndent : Text := List.replicate 24 ' '

/-- The room for an explanation in a line. -/
def helpRoom : Nat := 54

/-- A text in pieces of the given length. -/
def pieces (room : Nat) (t : Text) : List Text :=
  if t = [] ∨ room = 0 then []
  else t.take room :: pieces room (t.drop room)
termination_by t.length
decreasing_by
  next h =>
    have : t.length ≠ 0 := fun h0 => h (Or.inl (List.eq_nil_of_length_eq_zero h0))
    rw [List.length_drop]
    omega

/-- The lines of words that fit a line with one more word after them. -/
def wrapWord (room : Nat) (words word : Text) : List Text :=
  let left := room - (words.length + 1)
  if word.length ≤ left then [words ++ ' ' :: word]
  else if word.length ≤ room then [words, word]
  else (words ++ ' ' :: word.take left) :: pieces room (word.drop left)

/-- The explanation of the column width. -/
def widthHelp (width : Int) : Text :=
  (wrapWord helpRoom "width of the target column (default:".toList
      (Text.decimalInt width ++ [')'])).flatMap fun l => helpIndent ++ l ++ ['\n']

/-- The help of the program, with the width that is used by default. -/
def help (width : Int) : Text := usage ++ helpHead ++ widthHelp width ++ helpTail

/-- All spellings of a flag. -/
def Flag.spellings : Flag → Text
  | .help => "-h/--help".toList
  | .verbose => "-verbose/--verbose".toList
  | .pretty _ => "-pretty/--pretty/--no-pretty".toList
  | .debug => "--debug".toList

/-- All spellings of an option with a value. -/
def Valued.spellings : Valued → Text
  | .target => "-target/--target".toList
  | .columnWidth => "--column-width".toList

/-- A complaint about an option. -/
private def about (option complaint : Text) : Text :=
  "argument ".toList ++ option ++ ": ".toList ++ complaint

/-- Why a text is no width, as the command line says it. -/
def widthComplaint (value : Text) : WidthFault → Text
  | .notInteger => "invalid int value: ".toList ++ Text.quoted value
  | .notPositive => "must be positive: ".toList ++ Text.quoted value

/-- Texts with a separator between every two of them. -/
private def separated (mark : Text) (ts : List Text) : Text := (ts.intersperse mark).flatten

def UsageFault.message : UsageFault → Text
  | .ambiguous a =>
    "ambiguous option: ".toList ++ a.word ++ " could match ".toList
      ++ separated ", ".toList a.candidates
  | .missingValue v => about v.spellings "expected one argument".toList
  | .unwantedValue f value =>
    about f.spellings ("ignored explicit argument ".toList ++ Text.quoted value)
  | .badWidth fault value => about Valued.columnWidth.spellings (widthComplaint value fault)
  | .unrecognized words => "unrecognized arguments: ".toList ++ separated [' '] words

/-- The usage and the complaint about a command line that is refused. -/
def refusal (fault : UsageFault) : Text :=
  usage ++ "makedoc: error: ".toList ++ fault.message ++ ['\n']

end TargetDocs.CommandLine
