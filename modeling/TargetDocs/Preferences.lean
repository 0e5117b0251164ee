/-
What a user has set: the level of the log, the width of the target column and whether the output is
coloured.

Preferences are read from the environment. A level counts if its capitals name one, a width if it is
the numeral of a positive number; another value is reported and the default is used, as it is for a
variable that is not set.

Main statements:
* `readWidth_pos` — a width that is accepted is positive;
* `ofEnvironment_logLevel_known`, `ofEnvironment_columnWidth_pos` — what is read from an environment
  can be used.
-/
import TargetDocs.Listing
import TargetDocs.Log
import TargetDocs.Text.Numeral
import TargetDocs.Text.UpperCase

namespace TargetDocs

/-- Why a text is no width. -/
inductive WidthFault
  | notInteger
  | notPositive
  deriving DecidableEq, Repr

/-- Reads the width of a column, a positive number. -/
def readWidth (t : Text) : Except WidthFault Int :=
  match Text.readInt t with
  | none => .error .notInteger
  | some n => if n ≤ 0 then .error .notPositive else .ok n

/-- A width that is accepted is positive. -/
theorem readWidth_pos {t : Text} {n : Int} (h : readWidth t = .ok n) : 0 < n := by
  unfold readWidth at h
  split at h
  · cases h
  · split at h
    · cases h
    · next hn =>
      cases h
      omega

/-- A word for yes. -/
def isTruthy (t : Text) : Bool :=
  let lower := t.map Char.toLower
  lower = "true".toList || lower = "1".toList || lower = "yes".toList

/-- The variables of the environment that matter. -/
structure Environment where
  logLevel : Option Text := none
  columnWidth : Option Text := none
  pretty : Option Text := none
  noColor : Option Text := none
  deriving DecidableEq, Repr

/-- The terminal is to be sent no colours. -/
def Environment.forbidsColor (env : Environment) : Bool := env.noColor.any (· ≠ [])

/-- The usual level of the log. -/
def Preferences.defaultLogLevel : Text := "WARNING".toList

/-- What a user has set. -/
structure Preferences where
  logLevel : Text := Preferences.defaultLogLevel
  columnWidth : Int := Listing.defaultWidth
  pretty : Bool := false
  deriving DecidableEq, Repr

namespace Preferences

/-- The level that a variable asks for. -/
def readLogLevel : Option Text → Text × List Notice
  | none => (defaultLogLevel, [])
  | some value =>
    let level := Text.upper value
    if (Level.number? level).isSome then (level, [])
    else (defaultLogLevel, [.unknownLevel value])

/-- The width that a variable asks for. -/
def readColumnWidth : Option Text → Int × List Notice
  | none => (Listing.defaultWidth, [])
  | some value =>
    match readWidth value with
    | .ok n => (n, [])
    | .error .notInteger => (Listing.defaultWidth, [.widthNotInteger value])
    | .error .notPositive => (Listing.defaultWidth, [.widthNotPositive value])

/-- The preferences that an environment sets. -/
def ofEnvironment (env : Environment) : Preferences where
  logLevel := (readLogLevel env.logLevel).1
  columnWidth := (readColumnWidth env.columnWidth).1
  pretty := env.pretty.any isTruthy

/-- The values of an environment that are not used. -/
def noticesOf (env : Environment) : List Notice :=
  (readLogLevel env.logLevel).2 ++ (readColumnWidth env.columnWidth).2

/-- Changes the values that are given. A level is kept in capitals, whether it is one or not. -/
def set (p : Preferences) (logLevel : Option Text) (columnWidth : Option Int)
    (pretty : Option Bool) : Preferences where
  logLevel := (logLevel.map Text.upper).getD p.logLevel
  columnWidth := columnWidth.getD p.columnWidth
  pretty := pretty.getD p.pretty

/-- The level that is read from an environment is one. -/
theorem ofEnvironment_logLevel_known (env : Environment) :
    (Level.number? (ofEnvironment env).logLevel).isSome := by
  show (Level.number? (readLogLevel env.logLevel).1).isSome
  unfold readLogLevel
  split
  · decide
  · dsimp only
    split
    · next h => exact h
    · show (Level.number? defaultLogLevel).isSome
      decide

/-- The width that is read from an environment is positive. -/
theorem ofEnvironment_columnWidth_pos (env : Environment) :
    0 < (ofEnvironment env).columnWidth := by
  show 0 < (readColumnWidth env.columnWidth).1
  unfold readColumnWidth
  split
  · decide
  · split
    · next h => exact readWidth_pos h
    all_goals
      show 0 < Listing.defaultWidth
      decide

end Preferences

end TargetDocs
