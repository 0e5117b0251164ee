/-
Patterns and the search for them.

A pattern is a list of pieces that follow each other. A piece is a fixed text or a run of characters
of one class, with a least and perhaps a greatest length. Matching is greedy with giving back: every
run first takes as many characters as it can, and gives them back one by one, down to its least
length, as long as the pieces after it fail. A search takes the first position of the text at which
the pattern matches.

Main statements:
* `matchFrom_nil`, `matchFrom_cons` — a match is made of a length that the first piece allows and a
  match of the others after it;
* `search_of_matchFrom` — the search prefers the place where it starts.
-/
import TargetDocs.Text.Basic

namespace TargetDocs.Pattern

/-- One piece of a pattern. -/
inductive Piece
  /-- exactly this text -/
  | fixed (t : Text)
  /-- characters of a class, at least so many and perhaps at most so many -/
  | run (accepts : Char → Bool) (least : Nat) (most : Option Nat)

/-- The longest run of accepted characters at the start of the text, up to the bound. -/
def reach (accepts : Char → Bool) (most : Option Nat) (t : Text) : Nat :=
  let n := (t.takeWhile accepts).length
  match most with
  | none => n
  | some m => min n m

/-- The numbers of characters that a piece can take at the start of the text, the preferred one
first. -/
def Piece.lengths : Piece → Text → List Nat
  | .fixed f, t => if f.isPrefixOf t then [f.length] else []
  | .run accepts least most, t =>
    (List.range' least (reach accepts most t + 1 - least)).reverse

/-- Matches the pieces at the start of the text and says what each of them took. -/
def matchFrom : List Piece → Text → Option (List Text)
  | [], _ => some []
  | p :: ps, t =>
    (p.lengths t).findSome? fun n => (matchFrom ps (t.drop n)).map (t.take n :: ·)

/-- The match at the first position that has one. -/
def search (ps : List Piece) : Text → Option (List Text)
  | [] => matchFrom ps []
  | c :: t =>
    match matchFrom ps (c :: t) with
    | some m => some m
    | none => search ps t

@[simp] theorem matchFrom_nil (t : Text) : matchFrom [] t = some [] := rfl

theorem matchFrom_cons (p : Piece) (ps : List Piece) (t : Text) :
    matchFrom (p :: ps) t
      = (p.lengths t).findSome? fun n => (matchFrom ps (t.drop n)).map (t.take n :: ·) := rfl

/-- The search takes the match where it starts, if there is one. -/
theorem search_of_matchFrom {ps : List Piece} {t : Text} {m : List Text}
    (h : matchFrom ps t = some m) : search ps t = some m := by
  cases t with
  | nil => exact h
  | cons c t => rw [search, h]

/-- Without a match where it starts, the search goes on behind the first character. -/
theorem search_cons_of_none {ps : List Piece} {c : Char} {t : Text}
    (h : matchFrom ps (c :: t) = none) : search ps (c :: t) = search ps t := by
  rw [search, h]

end TargetDocs.Pattern
