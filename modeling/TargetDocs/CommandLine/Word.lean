/-
The words of a command line.

A word is an option, an argument (the value of an option or a file name), a word that looks like an
option but is none, or the marker after which there are no options. An option may be shortened to any
beginning of one of its spellings that no other spelling shares. What follows an equals sign is the
explicit value of the option before it. Negative numbers and words with a space in them are arguments
unless they stand for an option.

Main statements:
* `classify_of_noDash` — a word that does not begin with a dash is an argument;
* `classify_spelling` — each spelling in full is its option.
-/
import TargetDocs.Text.DecimalDigit

namespace TargetDocs.CommandLine

/-- An option without a value. -/
inductive Flag
  | help
  | verbose
  | pretty (on : Bool)
  | debug
  deriving DecidableEq, Repr

/-- An option with a value. -/
inductive Valued
  | target
  | columnWidth
  deriving DecidableEq, Repr

/-- An option. -/
inductive Switch
  | flag (f : Flag)
  | valued (v : Valued)
  deriving DecidableEq, Repr

/-- An option as it is spelled on a command line. -/
structure Spelling where
  text : Text
  switch : Switch
  deriving DecidableEq, Repr

/-- All spellings, in the order in which they are offered. -/
def spellings : List Spelling :=
  [⟨"-h".toList, .flag .help⟩, ⟨"--help".toList, .flag .help⟩,
    ⟨"-target".toList, .valued .target⟩, ⟨"--target".toList, .valued .target⟩,
    ⟨"-verbose".toList, .flag .verbose⟩, ⟨"--verbose".toList, .flag .verbose⟩,
    ⟨"-pretty".toList, .flag (.pretty true)⟩, ⟨"--pretty".toList, .flag (.pretty true)⟩,
    ⟨"--no-pretty".toList, .flag (.pretty false)⟩,
    ⟨"--column-width".toList, .valued .columnWidth⟩, ⟨"--debug".toList, .flag .debug⟩]

/-- The option that a text spells in full. -/
def spelled? (t : Text) : Option Spelling := spellings.find? (·.text = t)

/-- The word after which there are no options. -/
def marker : Text := ['-', '-']

/-- What a word of the command line is. -/
inductive Word
  | plain (t : Text)
  | marker
  | switch (s : Spelling) (value : Option Text)
  | unknown (t : Text)
  deriving DecidableEq, Repr

/-- A word may stand for several options. -/
structure Ambiguity where
  word : Text
  candidates : List Text
  deriving DecidableEq, Repr

/-- The text before the first equals sign. -/
def beforeEquals (t : Text) : Text := t.takeWhile (· ≠ '=')

/-- The text after the first equals sign. -/
def afterEquals? (t : Text) : Option Text :=
  match t.dropWhile (· ≠ '=') with
  | [] => none
  | _ :: v => some v

/-- The options that a word with a dash can stand for, with their explicit values. With two dashes it
is the beginning of a spelling, up to an equals sign. With one it is the beginning of a spelling as a
whole, or a spelling of two characters with its value right after it. -/
def candidates (t : Text) : List (Spelling × Option Text) :=
  if marker.isPrefixOf t then
    (spellings.filter fun s => (beforeEquals t).isPrefixOf s.text).map (·, afterEquals? t)
  else
    spellings.filterMap fun s =>
      if s.text = t.take 2 then some (s, some (t.drop 2))
      else if t.isPrefixOf s.text then some (s, none)
      else none

/-- A minus and decimal digits, perhaps with a point that has digits after it. One line feed may
follow. -/
def looksNegative : Text → Bool
  | '-' :: t =>
    let body := if t.getLast? = some '\n' then t.dropLast else t
    match body.dropWhile Text.isDecimalDigit with
    | [] => body ≠ []
    | '.' :: fraction => fraction ≠ [] && fraction.all Text.isDecimalDigit
    | _ => false
  | _ => false

/-- What a word is that stands before the marker. -/
def classify (t : Text) : Except Ambiguity Word :=
  if t.head? ≠ some '-' then .ok (.plain t)
  else
    match spelled? t with
    | some s => .ok (.switch s none)
    | none =>
      if t = ['-'] then .ok (.plain t)
      else
        match spelled? (beforeEquals t), afterEquals? t with
        | some s, some v => .ok (.switch s (some v))
        | _, _ =>
          match candidates t with
          | [(s, v)] => .ok (.switch s v)
          | [] => .ok (if looksNegative t || t.contains ' ' then .plain t else .unknown t)
          | cs => .error ⟨t, cs.map (·.1.text)⟩

/-- The words of a command line. After the first marker every word is an argument. -/
def classifyAll : List Text → Except Ambiguity (List Word)
  | [] => .ok []
  | t :: ts =>
    if t = marker then .ok (.marker :: ts.map .plain)
    else
      match classify t with
      | .error e => .error e
      | .ok w => (w :: ·) <$> classifyAll ts

/-- A word that does not begin with a dash is an argument. -/
theorem classify_of_noDash {t : Text} (h : t.head? ≠ some '-') : classify t = .ok (.plain t) := by
  rw [classify, if_pos h]

/-- Each spelling in full is its option. -/
theorem classify_spelling {s : Spelling} (h : s ∈ spellings) :
    classify s.text = .ok (.switch s none) := by
  simp only [spellings, List.mem_cons, List.not_mem_nil, or_false] at h
  rcases h with rfl | rfl | rfl | rfl | rfl | rfl | rfl | rfl | rfl | rfl | rfl <;> rfl

end TargetDocs.CommandLine
