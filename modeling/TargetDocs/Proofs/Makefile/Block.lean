/-
Blocks of comment lines, and the scan as steps that carry a block.

`blockAtStart` and `blockAtEnd` are the unbroken runs of comment lines that a list of lines begins and
ends with, as long as they can be. What the scan keeps while it reads is the run at the end of the lines
read so far, so a scan that begins with some block can be split at any line:

* `blockAtStart_eq_iff`, `blockAtEnd_eq_iff` — a run is maximal exactly if no comment line is next to it;
* `foldl_blockAfter` — the block that the scan keeps is the run at the end of what it has read;
* `documentedFrom_append` — lines in two parts are scanned one after the other, the second part with the
  block that the first one leaves;
* `documentedFrom_comments` — comment lines only make the block longer;
* `documented_joinLines` — a text made of lines documents what its lines do.

Design notes: `documentedFrom` is the scan without its reports and line numbers, which decide nothing
about the documented targets (`filterMap_scanFrom`).
-/
import TargetDocs.Makefile.Scan

namespace TargetDocs.Makefile

/-- The texts of the comment lines that lines begin with. -/
def blockAtStart : List Line → List Text
  | .comment t :: ls => t :: blockAtStart ls
  | _ => []

/-- The texts of the comment lines that lines end with. -/
def blockAtEnd (ls : List Line) : List Text := (blockAtStart ls.reverse).reverse

theorem blockAtStart_eq_iff {ls : List Line} {block : List Text} :
    blockAtStart ls = block
      ↔ ∃ after, ls = block.map .comment ++ after ∧ ∀ t, after.head? ≠ some (.comment t) := by
  constructor
  · rintro rfl
    induction ls with
    | nil => exact ⟨[], rfl, by simp⟩
    | cons l ls ih =>
      cases l with
      | comment t =>
        obtain ⟨after, hls, hafter⟩ := ih
        exact ⟨after, congrArg (Line.comment t :: ·) hls, hafter⟩
      | target name => exact ⟨.target name :: ls, rfl, by simp⟩
      | other t => exact ⟨.other t :: ls, rfl, by simp⟩
  · rintro ⟨after, rfl, hafter⟩
    induction block with
    | nil =>
      -- the rest does not begin with a comment, so it adds nothing
      rcases after with _ | ⟨l, after⟩
      · rfl
      · cases l with
        | comment t => exact absurd rfl (hafter t)
        | target name => rfl
        | other t => rfl
    | cons t block ih => exact congrArg (t :: ·) ih

theorem blockAtEnd_eq_iff {ls : List Line} {block : List Text} :
    blockAtEnd ls = block
      ↔ ∃ before, ls = before ++ block.map .comment
        ∧ ∀ t, before.getLast? ≠ some (.comment t) := by
  rw [blockAtEnd, List.reverse_eq_iff, blockAtStart_eq_iff]
  constructor
  · rintro ⟨after, hls, hafter⟩
    refine ⟨after.reverse, ?_, fun t => ?_⟩
    · rw [← List.reverse_reverse ls, hls, List.reverse_append, List.map_reverse,
        List.reverse_reverse]
    · rw [List.getLast?_reverse]
      exact hafter t
  · rintro ⟨before, rfl, hbefore⟩
    refine ⟨before.reverse, ?_, fun t => ?_⟩
    · rw [List.reverse_append, List.map_reverse]
    · rw [List.head?_reverse]
      exact hbefore t

/-! ### One step of the scan -/

/-- The block above the line after `l`, if `block` is the one above `l`. -/
def blockAfter (block : List Text) : Line → List Text
  | .comment t => block ++ [t]
  | _ => []

/-- The target that the line `l` declares and `block`, right above it, documents. -/
def documentedBy (block : List Text) : Line → Option Documented
  | .target name => if block = [] then none else some ⟨name, Text.joinLines block⟩
  | _ => none

theorem blockAtEnd_concat (ls : List Line) (l : Line) :
    blockAtEnd (ls ++ [l]) = blockAfter (blockAtEnd ls) l := by
  cases l <;> simp [blockAtEnd, blockAtStart, blockAfter]

theorem foldl_blockAfter (ls : List Line) : ls.foldl blockAfter [] = blockAtEnd ls := by
  -- from the left, with the lines read before; the invariant is that their last run is the block
  have key : ∀ read : List Line,
      ls.foldl blockAfter (blockAtEnd read) = blockAtEnd (read ++ ls) := by
    induction ls with
    | nil => simp
    | cons l ls ih =>
      intro read
      rw [List.foldl_cons, ← blockAtEnd_concat, ih, List.append_assoc, List.singleton_append]
  exact key []

/-! ### The scan from a block -/

/-- The targets that lines document, read with `block` right above them. -/
def documentedFrom (block : List Text) : List Line → List Documented
  | [] => []
  | l :: ls => (documentedBy block l).toList ++ documentedFrom (blockAfter block l) ls

theorem filterMap_scanFrom (block : List Text) (number : Nat) (ls : List Line) :
    (scanFrom block number ls).filterMap BlockEnd.documented? = documentedFrom block ls := by
  induction ls generalizing block number with
  | nil =>
    rw [scanFrom_nil]
    split <;> rfl
  | cons l ls ih =>
    cases l with
    | comment t =>
      rw [scanFrom_comment, ih]
      rfl
    | target name =>
      rw [scanFrom_target, List.filterMap_append, ih, documentedFrom, documentedBy]
      split <;> rfl
    | other t =>
      rw [scanFrom_other, List.filterMap_append, ih]
      split <;> rfl

theorem documented_eq_documentedFrom (t : Text) :
    documented t = documentedFrom [] (linesOf t) :=
  filterMap_scanFrom [] 1 (linesOf t)

theorem documentedFrom_append (block : List Text) (xs ys : List Line) :
    documentedFrom block (xs ++ ys)
      = documentedFrom block xs ++ documentedFrom (xs.foldl blockAfter block) ys := by
  induction xs generalizing block with
  | nil => rfl
  | cons x xs ih =>
    rw [List.cons_append, documentedFrom, documentedFrom, ih, List.foldl_cons, List.append_assoc]

theorem documentedFrom_comments (block texts : List Text) (ls : List Line) :
    documentedFrom block (texts.map .comment ++ ls) = documentedFrom (block ++ texts) ls := by
  induction texts generalizing block with
  | nil => rw [List.map_nil, List.nil_append, List.append_nil]
  | cons t texts ih =>
    rw [List.map_cons, List.cons_append, documentedFrom, blockAfter, ih, List.append_assoc]
    rfl

theorem documentedFrom_target {block : List Text} (h : block ≠ []) (name : Text)
    (ls : List Line) :
    documentedFrom block (.target name :: ls)
      = ⟨name, Text.joinLines block⟩ :: documentedFrom [] ls := by
  rw [documentedFrom, documentedBy, if_neg h]
  rfl

/-- A line that is no comment documents nothing unless it is right under one. -/
theorem documentedFrom_nil_cons {l : Line} (h : ∀ t, l ≠ .comment t) (ls : List Line) :
    documentedFrom [] (l :: ls) = documentedFrom [] ls := by
  cases l with
  | comment t => exact absurd rfl (h t)
  | target name => rfl
  | other t => rfl

/-! ### Texts made of lines -/

theorem linesOf_append (s t : Text) : linesOf (s ++ '\n' :: t) = linesOf s ++ linesOf t := by
  rw [linesOf, Text.lines, Text.cut_append, List.map_append]
  rfl

theorem documented_joinLines {ls : List Text} (h : ∀ l ∈ ls, '\n' ∉ l) :
    documented (Text.joinLines ls) = documentedFrom [] (ls.map Line.classify) := by
  rw [documented_eq_documentedFrom]
  by_cases hls : ls = []
  · -- the text without lines is the one empty line, which documents nothing
    subst hls
    rfl
  · rw [linesOf, Text.lines, Text.joinLines, Text.cut_join hls h]

end TargetDocs.Makefile
