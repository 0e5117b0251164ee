/-
The things that reading a Makefile produces, side by side: lines, documented targets and entries, with
the form in which each is written for a reader, their comparison and the sets they are put into.

The written form is a name with the fields in parentheses, texts in quotes. Nodes of different kinds are
different, and those of one kind are compared by the comparison of their kind. A set looks for a member
with the same hash before it compares; the hash is made from the fields and, except for entries, the name
of the kind.

* `same_iff` — the comparison decides equality.
-/
import TargetDocs.Entry
import TargetDocs.Text.Quoted

namespace TargetDocs

/-- A line, a documented target or an entry. -/
inductive Node
  | line (l : Makefile.Line)
  | documented (d : Makefile.Documented)
  | entry (e : Entry)
  deriving Repr

namespace Node

/-- A name and the fields after it, in parentheses with commas between them. -/
def writtenRecord (name : String) : List Text → Text
  | [] => name.toList ++ ['(', ')']
  | f :: fs => name.toList ++ '(' :: f ++ fs.flatMap ([',', ' '] ++ ·) ++ [')']

/-- A truth value. -/
def writtenBool (b : Bool) : Text := if b then "True".toList else "False".toList

/-- The written form of a node. -/
def written : Node → Text
  | .line l => writtenRecord l.kind [Text.quoted l.value]
  | .documented d => writtenRecord "TargetComment" [Text.quoted d.target, Text.quoted d.comment]
  | .entry e =>
    writtenRecord "DocElement" [Text.quoted e.target, Text.quoted e.short, Text.quoted e.long,
      "is_default=".toList ++ writtenBool e.isDefault]

/-! ### Comparison -/

/-- The comparison of two nodes: that of their kind, if they are of one. -/
def same : Node → Node → Bool
  | .line a, .line b => a.same b
  | .documented a, .documented b => a.same b
  | .entry a, .entry b => a.same b
  | _, _ => false

/-- The comparison decides equality. -/
theorem same_iff {a b : Node} : a.same b = true ↔ a = b := by
  cases a <;> cases b <;>
    simp [same, Makefile.Line.same_iff, Makefile.Documented.same_iff, Entry.same_iff]

instance : BEq Node := ⟨same⟩

instance : LawfulBEq Node where
  eq_of_beq := same_iff.mp
  rfl := same_iff.mpr rfl

instance : DecidableEq Node := instDecidableEqOfLawfulBEq

/-! ### Sets -/

/-- A field of a node: a text, or whether the target is the default goal. -/
inductive Field
  | text (t : Text)
  | isDefault (b : Bool)
  deriving DecidableEq

/-- The name of the kind of a node. -/
def kind : Node → String
  | .line l => l.kind
  | .documented _ => "TargetComment"
  | .entry _ => "DocElement"

/-- The fields of a node, in their order. -/
def fields : Node → List Field
  | .line l => [.text l.value]
  | .documented d => [.text d.target, .text d.comment]
  | .entry e => [.text e.target, .text e.short, .text e.long, .isDefault e.isDefault]

/-- What the hash of a node is made from: the fields, and the name of the kind except for entries. -/
def hashed : Node → List Field
  | .entry e => (Node.entry e).fields
  | n => .text n.kind.toList :: n.fields

/-- The members of a set after a node is put into it: the node is new unless a member with the same
hash equals it. -/
def insert (hash : List Field → Nat) (members : List Node) (n : Node) : List Node :=
  if members.any fun m => hash m.hashed == hash n.hashed && m == n then members else members ++ [n]

/-- The members of the set that nodes are put into one after the other. -/
def members (hash : List Field → Nat) (ns : List Node) : List Node := ns.foldl (insert hash) []

/-- The number of different nodes in a list: the size of their set, here with one hash for all nodes. -/
def countDistinct (ns : List Node) : Nat := (members (fun _ => 0) ns).length

end Node

end TargetDocs
