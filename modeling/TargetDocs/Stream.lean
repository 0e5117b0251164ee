/-
Where text comes from and where it goes.

A source is a text at hand or a stream, which may fail when it is read. An outlet takes writes and a
final flush; it may fail from some write on, or at the flush.

Main statements:
* `writeAll_working` — a working outlet takes everything;
* `writeAll_breaks` — an outlet that breaks at some write takes exactly the writes before it.
-/
import TargetDocs.Text.Basic

namespace TargetDocs

/-- A stream failed, for a reason that the system gives. -/
structure StreamFault where
  reason : Text
  deriving DecidableEq, Repr

/-- A text, or a stream to read it from. -/
inductive Source
  | text (t : Text)
  | stream (contents : Except StreamFault Text)

/-- The text of a source. -/
def Source.read : Source → Except StreamFault Text
  | .text t => .ok t
  | .stream contents => contents

/-- An output stream. -/
inductive Outlet
  | working
  /-- the write of that number, counted from one, and all later ones fail -/
  | breaks (write : Nat) (fault : StreamFault)
  /-- the flush fails -/
  | full (fault : StreamFault)

namespace Outlet

/-- The failure of the write of that number. -/
def writeFault? : Outlet → Nat → Option StreamFault
  | .breaks first fault, n => if n < first then none else some fault
  | _, _ => none

/-- The failure of the flush. -/
def flushFault? : Outlet → Option StreamFault
  | .full fault => some fault
  | _ => none

/-- Writes texts one after the other, the next write being that of the given number, until one fails.
The answer is what was written and the failure. -/
def writeFrom (o : Outlet) (number : Nat) : List Text → Text × Option StreamFault
  | [] => ([], none)
  | t :: ts =>
    match o.writeFault? number with
    | some fault => ([], some fault)
    | none =>
      let rest := o.writeFrom (number + 1) ts
      (t ++ rest.1, rest.2)

/-- Writes texts to a fresh outlet. -/
def writeAll (o : Outlet) (ts : List Text) : Text × Option StreamFault := o.writeFrom 1 ts

private theorem writeFrom_cons {o : Outlet} {number : Nat} (h : o.writeFault? number = none)
    (t : Text) (ts : List Text) :
    o.writeFrom number (t :: ts)
      = (t ++ (o.writeFrom (number + 1) ts).1, (o.writeFrom (number + 1) ts).2) := by
  rw [writeFrom, h]

private theorem writeFrom_of_noFault {o : Outlet} (h : ∀ n, o.writeFault? n = none) (number : Nat)
    (ts : List Text) : o.writeFrom number ts = (ts.flatten, none) := by
  induction ts generalizing number with
  | nil => rfl
  | cons t ts ih =>
    rw [writeFrom_cons (h number), ih]
    rfl

/-- A working outlet takes everything. -/
theorem writeAll_working (ts : List Text) : working.writeAll ts = (ts.flatten, none) :=
  writeFrom_of_noFault (fun _ => rfl) 1 ts

/-- An outlet that fails at the flush takes every write. -/
theorem writeAll_full (fault : StreamFault) (ts : List Text) :
    (full fault).writeAll ts = (ts.flatten, none) :=
  writeFrom_of_noFault (fun _ => rfl) 1 ts

private theorem writeFrom_breaks {first number : Nat} (h : number ≤ first) (fault : StreamFault)
    (ts : List Text) :
    (breaks first fault).writeFrom number ts
      = if number + ts.length ≤ first then (ts.flatten, none)
        else ((ts.take (first - number)).flatten, some fault) := by
  induction ts generalizing number with
  | nil => simp [writeFrom, h]
  | cons t ts ih =>
    rcases Nat.lt_or_eq_of_le h with hlt | rfl
    · -- this write succeeds
      have hnone : (breaks first fault).writeFault? number = none := if_pos hlt
      rw [writeFrom_cons hnone, ih hlt, List.length_cons,
        show number + 1 + ts.length = number + (ts.length + 1) by omega,
        show first - number = first - (number + 1) + 1 by omega]
      split <;> rfl
    · rw [writeFrom, writeFault?, if_neg (Nat.lt_irrefl _), List.length_cons,
        if_neg (by omega), Nat.sub_self]
      rfl

/-- An outlet that breaks at some write takes exactly the writes before it. -/
theorem writeAll_breaks {first : Nat} (h : 1 ≤ first) (fault : StreamFault) (ts : List Text) :
    (breaks first fault).writeAll ts
      = if ts.length < first then (ts.flatten, none)
        else ((ts.take (first - 1)).flatten, some fault) := by
  rw [writeAll, writeFrom_breaks h, Nat.add_comm]
  rfl

end Outlet

end TargetDocs
