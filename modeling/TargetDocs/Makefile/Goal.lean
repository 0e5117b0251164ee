/-
The default goal of a Makefile: what its first assignment to `.DEFAULT_GOAL` says.

The assignment may stand anywhere in a line. It has one or two operator characters out of the question
mark, the equals sign and the colon, with white space, line feeds included, around them; the rest
of the line is the goal.

* `defaultGoal_of_search_eq_none` — without an assignment the goal is the empty text.
-/
import TargetDocs.Pattern
import TargetDocs.Text.Blank

namespace TargetDocs.Makefile

open Pattern

/-- The name of the variable that holds the goal. -/
def goalVariable : Text := ".DEFAULT_GOAL".toList

/-- A character of an assignment operator. -/
def isOperatorChar (c : Char) : Bool := c = '?' || c = '=' || c = ':'

/-- The variable, an operator of one or two characters with white space around it, and the rest of
the line. -/
def goalPattern : List Piece :=
  [.fixed goalVariable, .run Text.isBlank 0 none, .run isOperatorChar 1 (some 2),
    .run Text.isBlank 0 none, .run (· ≠ '\n') 0 none]

/-- The default goal that a text sets, the empty text if it sets none. -/
def defaultGoal (t : Text) : Text :=
  match search goalPattern t with
  | some m => m.getLastD []
  | none => []

theorem defaultGoal_of_search_eq_none {t : Text} (h : search goalPattern t = none) :
    defaultGoal t = [] := by
  rw [defaultGoal, h]

example : defaultGoal "all:\n.DEFAULT_GOAL := help\n".toList = "help".toList := by decide

/-- White space after the operator may hold line feeds. -/
example : defaultGoal ".DEFAULT_GOAL =\nall: x".toList = "all: x".toList := by decide

end TargetDocs.Makefile
