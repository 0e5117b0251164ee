/-
Which targets of a Makefile are documented.

The lines are read in order. Comment lines that follow each other form a block, and the block
documents the target declared on the very next line. A block that meets another line, or the end of
the text, is discarded. The result of a scan is the list of what became of the blocks, in the order
of the text: every block is either the comment of a target or reported as discarded.

Main statements:
* `scanFrom_comment`, `scanFrom_target`, `scanFrom_other`, `scanFrom_nil` — one step of the scan for
  each kind of line and the end.
-/
import TargetDocs.Makefile.Line

namespace TargetDocs.Makefile

/-- A target with the comment right above it, whose lines are joined by line feeds. -/
structure Documented where
  target : Text
  comment : Text
  deriving DecidableEq, Repr

/-- The comparison of two documented targets, field by field. -/
def Documented.same (a b : Documented) : Bool := a.target == b.target && a.comment == b.comment

/-- The comparison decides equality. -/
theorem Documented.same_iff {a b : Documented} : a.same b = true ↔ a = b := by
  cases a
  cases b
  simp [same]

/-- What became of a block of comment lines. -/
inductive BlockEnd
  /-- it documents a target -/
  | documents (node : Documented)
  /-- it is discarded because of the line of that number, counted from one -/
  | discardedAt (line : Nat)
  /-- it is discarded because the text ends -/
  | discardedAtEnd
  deriving DecidableEq, Repr

/-- Reads lines with the comment lines right above them in `block`; `number` is the number of the
next line. -/
def scanFrom (block : List Text) (number : Nat) : List Line → List BlockEnd
  | [] => if block = [] then [] else [.discardedAtEnd]
  | .comment t :: ls => scanFrom (block ++ [t]) (number + 1) ls
  | .target name :: ls =>
    if block = [] then scanFrom [] (number + 1) ls
    else .documents ⟨name, Text.joinLines block⟩ :: scanFrom [] (number + 1) ls
  | .other _ :: ls =>
    if block = [] then scanFrom [] (number + 1) ls
    else .discardedAt number :: scanFrom [] (number + 1) ls

/-- The classified lines of a text. -/
def linesOf (t : Text) : List Line := (Text.lines t).map Line.classify

/-- What became of the comment blocks of a text. -/
def blockEnds (t : Text) : List BlockEnd := scanFrom [] 1 (linesOf t)

/-- The target that a block documents. -/
def BlockEnd.documented? : BlockEnd → Option Documented
  | .documents d => some d
  | _ => none

/-- The documented targets of a text, in its order. -/
def documented (t : Text) : List Documented := (blockEnds t).filterMap BlockEnd.documented?

@[simp] theorem scanFrom_nil (block : List Text) (number : Nat) :
    scanFrom block number [] = if block = [] then [] else [.discardedAtEnd] := rfl

@[simp] theorem scanFrom_comment (block : List Text) (number : Nat) (t : Text) (ls : List Line) :
    scanFrom block number (.comment t :: ls) = scanFrom (block ++ [t]) (number + 1) ls := rfl

@[simp] theorem scanFrom_target (block : List Text) (number : Nat) (name : Text) (ls : List Line) :
    scanFrom block number (.target name :: ls)
      = (if block = [] then [] else [.documents ⟨name, Text.joinLines block⟩])
        ++ scanFrom [] (number + 1) ls := by
  rw [scanFrom]
  split <;> rfl

@[simp] theorem scanFrom_other (block : List Text) (number : Nat) (t : Text) (ls : List Line) :
    scanFrom block number (.other t :: ls)
      = (if block = [] then [] else [.discardedAt number]) ++ scanFrom [] (number + 1) ls := by
  rw [scanFrom]
  split <;> rfl

end TargetDocs.Makefile
