/-
The documentation of one target.

The comment of a target is split at its first blank line: what comes before describes the target in
short, what comes after at length.

Main statements:
* `splitDescription_of_noBreak` — without a blank line all of it is the short description.
-/
import TargetDocs.Makefile.Scan

namespace TargetDocs

/-- The documentation of a target. -/
structure Entry where
  target : Text
  short : Text := []
  long : Text := []
  isDefault : Bool := false
  deriving DecidableEq, Repr

/-- The text before the first two line feeds that follow each other, and the text after them. -/
def splitDescription : Text → Text × Text
  | [] => ([], [])
  | '\n' :: '\n' :: t => ([], t)
  | c :: t =>
    let parts := splitDescription t
    (c :: parts.1, parts.2)

namespace Entry

/-- The comparison of two entries, field by field. -/
def same (a b : Entry) : Bool :=
  a.target == b.target && a.short == b.short && a.long == b.long && a.isDefault == b.isDefault

/-- The comparison decides equality. -/
theorem same_iff {a b : Entry} : a.same b = true ↔ a = b := by
  cases a
  cases b
  simp [same, and_assoc]

/-- The entry of a documented target; it is the default if the goal names it. -/
def ofDocumented (d : Makefile.Documented) (goal : Text) : Entry where
  target := d.target
  short := (splitDescription d.comment).1
  long := (splitDescription d.comment).2
  isDefault := decide (goal ≠ [] ∧ d.target = goal)

/-- The entries of a Makefile in its order, with the goal marked; an empty goal marks none. -/
def ofMakefile (goal t : Text) : List Entry := (Makefile.documented t).map (ofDocumented · goal)

end Entry

/-- A text without two line feeds in a row is a short description. -/
theorem splitDescription_of_noBreak {t : Text} (h : ¬ ['\n', '\n'] <:+: t) :
    splitDescription t = (t, []) := by
  fun_induction splitDescription t with
  | case1 => rfl
  | case2 t => exact absurd ⟨[], t, rfl⟩ h
  | case3 c t _ parts ih =>
    have : parts = (t, []) := ih fun hi => h (hi.trans (List.suffix_cons c t).isInfix)
    rw [this]

end TargetDocs
