/-
What a command line asks for.

The words are taken from left to right. An option with a value takes its explicit value or the
argument after it. Arguments that no option takes are file names, but only those of the first unbroken
row of them; later ones are refused, as are unknown options. The last of several options of a kind
counts. Help is given as soon as its turn comes.
-/
import TargetDocs.CommandLine.Word
import TargetDocs.Preferences

namespace TargetDocs.CommandLine

/-- Where the width of the target column comes from. -/
inductive WidthChoice
  /-- from the preferences -/
  | preferred
  /-- this many characters -/
  | columns (n : Int)
  /-- the option is given and has no value -/
  | missing
  deriving DecidableEq, Repr

/-- What a command line asks for. -/
structure Request where
  files : List Text := []
  /-- the target to show, all if it is empty -/
  target : Text := []
  verbose : Bool := false
  /-- whether to colour, if it is asked for -/
  pretty : Option Bool := none
  columnWidth : WidthChoice := .preferred
  debug : Bool := false
  deriving DecidableEq, Repr

/-- Why a command line is refused. -/
inductive UsageFault
  | ambiguous (a : Ambiguity)
  | missingValue (v : Valued)
  /-- a flag has an explicit value -/
  | unwantedValue (f : Flag) (value : Text)
  | badWidth (fault : WidthFault) (value : Text)
  /-- words that no one takes -/
  | unrecognized (words : List Text)
  deriving DecidableEq, Repr

/-- Why reading a command line ends without a request. -/
inductive Stop
  | help
  | refused (fault : UsageFault)
  deriving DecidableEq, Repr

/-- The file names: not reached yet, being read, or behind. -/
inductive FileRow
  | ahead
  | current (names : List Text)
  | behind (names : List Text)
  deriving DecidableEq, Repr

/-- The file names read so far. -/
def FileRow.names : FileRow → List Text
  | .ahead => []
  | .current names => names
  | .behind names => names

/-- A command line that is read up to some word. -/
structure Reading where
  /-- the options so far -/
  request : Request := {}
  row : FileRow := .ahead
  /-- words that no one took -/
  extras : List Text := []
  deriving DecidableEq, Repr

namespace Reading

/-- Takes an argument. -/
def plain (r : Reading) (t : Text) : Reading :=
  match r.row with
  | .ahead => { r with row := .current [t] }
  | .current names => { r with row := .current (names ++ [t]) }
  | .behind _ => { r with extras := r.extras ++ [t] }

/-- Takes the marker, which is no file name but belongs to the row. -/
def mark (r : Reading) : Reading :=
  match r.row with
  | .ahead => { r with row := .current [] }
  | .current _ => r
  | .behind _ => { r with extras := r.extras ++ [marker] }

/-- Ends the row of file names, if it has begun. -/
def endRow (r : Reading) : Reading :=
  match r.row with
  | .current names => { r with row := .behind names }
  | _ => r

/-- Takes a word that is no option. -/
def unknown (r : Reading) (t : Text) : Reading :=
  { r.endRow with extras := r.extras ++ [t] }

/-- Sets a flag. -/
def flag (r : Reading) : Flag → Except Stop Reading
  | .help => .error .help
  | .verbose => .ok { r with request.verbose := true }
  | .pretty on => .ok { r with request.pretty := some on }
  | .debug => .ok { r with request.debug := true }

/-- Sets flags one after the other. -/
def flags (r : Reading) : List Flag → Except Stop Reading
  | [] => .ok r
  | f :: fs =>
    match r.flag f with
    | .error stop => .error stop
    | .ok r => r.flags fs

/-- Gives an option its value. -/
def value (r : Reading) (t : Text) : Valued → Except Stop Reading
  | .target => .ok { r with request.target := t }
  | .columnWidth =>
    match readWidth t with
    | .ok n => .ok { r with request.columnWidth := .columns n }
    | .error fault => .error (.refused (.badWidth fault t))

/-- Gives an option no value. -/
def noValue (r : Reading) : Valued → Reading
  | .target => { r with request.target := [] }
  | .columnWidth => { r with request.columnWidth := .missing }

end Reading

/-- The flag that a text spells. -/
def flagSpelled? (t : Text) : Option Flag :=
  match spelled? t with
  | some ⟨_, .flag f⟩ => some f
  | _ => none

/-- The flags that a flag with an explicit value sets: behind a single dash, each character of the
value is the spelling of one more flag. -/
def flagsOf (spelling : Text) (f : Flag) : Text → Except UsageFault (List Flag)
  | [] => .error (.unwantedValue f [])
  | c :: t =>
    if marker.isPrefixOf spelling then .error (.unwantedValue f (c :: t))
    else
      match flagSpelled? ['-', c] with
      | none => .error (.unwantedValue f (c :: t))
      | some g => if t = [] then .ok [f, g] else (f :: ·) <$> flagsOf ['-', c] g t

/-- Sets an option that has an explicit value. The marker is no value. -/
def Reading.explicit (r : Reading) (s : Spelling) (t : Text) : Except Stop Reading :=
  match s.switch with
  | .valued v => if t = marker then .ok (r.noValue v) else r.value t v
  | .flag f =>
    match flagsOf s.text f t with
    | .error fault => .error (.refused fault)
    | .ok fs => r.flags fs

/-- Takes words from left to right. -/
def consume (r : Reading) : List Word → Except Stop Reading
  | [] => .ok r
  | .plain t :: ws => consume (r.plain t) ws
  | .marker :: ws => consume r.mark ws
  | .unknown t :: ws => consume (r.unknown t) ws
  | .switch s (some t) :: ws =>
    match r.endRow.explicit s t with
    | .error stop => .error stop
    | .ok r => consume r ws
  | .switch ⟨_, .flag f⟩ none :: ws =>
    match r.endRow.flag f with
    | .error stop => .error stop
    | .ok r => consume r ws
  | .switch ⟨_, .valued v⟩ none :: .plain t :: ws =>
    match r.endRow.value t v with
    | .error stop => .error stop
    | .ok r => consume r ws
  | .switch ⟨_, .valued v⟩ none :: _ => .error (.refused (.missingValue v))

/-- Reads a command line. All words are recognised before the first one is taken. -/
def parse (words : List Text) : Except Stop Request :=
  match classifyAll words with
  | .error a => .error (.refused (.ambiguous a))
  | .ok ws =>
    match consume {} ws with
    | .error stop => .error stop
    | .ok r =>
      if r.extras = [] then .ok { r.request with files := r.row.names }
      else .error (.refused (.unrecognized r.extras))

example : parse ["-target=all".toList, "Makefile".toList, "--no-p".toList]
    = .ok { files := ["Makefile".toList], target := "all".toList, pretty := some false } := rfl

/-- File names in two rows are refused. -/
example : parse ["a.mk".toList, "--debug".toList, "b.mk".toList]
    = .error (.refused (.unrecognized ["b.mk".toList])) := rfl

end TargetDocs.CommandLine
