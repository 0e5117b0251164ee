/-
Where the documented targets of a Makefile stand.

`documented` reads the lines from the first to the last and keeps one block; what it finds is said here
line by line, without a scan. The place `i` counts lines from zero:

* `documented_eq_filterMap` — the documented targets are what each place documents (`documentedAt`), in
  the order of the places;
* `documented_places` — the places are those of the declarations right under a comment line, each counts
  once, and the comment is the whole run of comment lines above it.
-/
import Mathlib.Data.List.Forall2
import TargetDocs.Proofs.Makefile.Block

namespace TargetDocs.Makefile

/-- At the place `i` a target is declared, right under a comment line. -/
def IsDocumentedPlace (ls : List Line) (i : Nat) : Prop :=
  (∃ name, ls[i]? = some (.target name)) ∧ 0 < i ∧ ∃ t, ls[i - 1]? = some (.comment t)

/-- The place `i` is that of `d`: its target is declared there, and the lines above are `before` and then
the comment lines whose texts make the comment, none of which is left in `before`. -/
structure StandsAt (ls : List Line) (i : Nat) (d : Documented) : Prop where
  declared : ls[i]? = some (.target d.target)
  commented : ∃ before block, ls.take i = before ++ block.map .comment
    ∧ (∀ t, before.getLast? ≠ some (.comment t)) ∧ d.comment = Text.joinLines block

/-- What the line at the place `i` documents together with the lines above it. -/
def documentedAt (ls : List Line) (i : Nat) : Option Documented :=
  ls[i]?.bind (documentedBy (blockAtEnd (ls.take i)))

theorem documentedBy_eq_some_iff {block : List Text} {l : Line} {d : Documented} :
    documentedBy block l = some d
      ↔ l = .target d.target ∧ block ≠ [] ∧ d.comment = Text.joinLines block := by
  cases l with
  | comment t => simp [documentedBy]
  | other t => simp [documentedBy]
  | target name =>
    rw [documentedBy]
    constructor
    · intro h
      split at h
      · cases h
      · next hblock =>
        obtain rfl := Option.some.inj h
        exact ⟨rfl, hblock, rfl⟩
    · rintro ⟨hname, hblock, hcomment⟩
      rw [if_neg hblock, Line.target.inj hname, ← hcomment]

theorem documentedAt_eq_some_iff {ls : List Line} {i : Nat} {d : Documented} :
    documentedAt ls i = some d
      ↔ ls[i]? = some (.target d.target) ∧ blockAtEnd (ls.take i) ≠ []
        ∧ d.comment = Text.joinLines (blockAtEnd (ls.take i)) := by
  rw [documentedAt, Option.bind_eq_some_iff]
  constructor
  · rintro ⟨l, hl, hd⟩
    obtain ⟨rfl, hblock, hcomment⟩ := documentedBy_eq_some_iff.mp hd
    exact ⟨hl, hblock, hcomment⟩
  · rintro ⟨hl, hblock, hcomment⟩
    exact ⟨_, hl, documentedBy_eq_some_iff.mpr ⟨rfl, hblock, hcomment⟩⟩

/-! ### The scan, place by place -/

theorem documentedFrom_eq_filterMap (read ls : List Line) :
    documentedFrom (blockAtEnd read) ls
      = (List.range' read.length ls.length).filterMap (documentedAt (read ++ ls)) := by
  -- `read` is what the scan has behind it: its block is the run at the end of `read`
  induction ls generalizing read with
  | nil => rfl
  | cons l ls ih =>
    have hread : read ++ l :: ls = (read ++ [l]) ++ ls := by
      rw [List.append_assoc, List.singleton_append]
    have hhere : documentedAt (read ++ l :: ls) read.length
        = documentedBy (blockAtEnd read) l := by
      rw [documentedAt, List.getElem?_append_right (Nat.le_refl _), List.take_left,
        Nat.sub_self, List.getElem?_cons_zero, Option.bind_some]
    have hlater := ih (read ++ [l])
    rw [List.length_append, List.length_singleton, ← hread] at hlater
    rw [documentedFrom, ← blockAtEnd_concat, hlater, List.length_cons, List.range'_succ,
      List.filterMap_cons, hhere]
    cases documentedBy (blockAtEnd read) l <;> rfl

theorem documented_eq_filterMap (t : Text) :
    documented t
      = (List.range (linesOf t).length).filterMap (documentedAt (linesOf t)) := by
  rw [documented_eq_documentedFrom, List.range_eq_range']
  exact documentedFrom_eq_filterMap [] (linesOf t)

/-! ### The places -/

theorem blockAtEnd_ne_nil_iff {ls : List Line} :
    blockAtEnd ls ≠ [] ↔ ∃ t, ls.getLast? = some (.comment t) := by
  rcases List.eq_nil_or_concat ls with rfl | ⟨before, l, rfl⟩
  · simp [blockAtEnd, blockAtStart]
  · rw [List.concat_eq_append, blockAtEnd_concat, List.getLast?_concat]
    cases l <;> simp [blockAfter]

theorem isSome_documentedAt_iff {ls : List Line} {i : Nat} :
    (documentedAt ls i).isSome ↔ IsDocumentedPlace ls i := by
  rw [Option.isSome_iff_exists]
  constructor
  · rintro ⟨d, hd⟩
    obtain ⟨hl, hblock, -⟩ := documentedAt_eq_some_iff.mp hd
    obtain ⟨t, ht⟩ := blockAtEnd_ne_nil_iff.mp hblock
    rw [List.getLast?_take] at ht
    split at ht
    · cases ht
    · next hi =>
      have hbound : i < ls.length := (List.getElem?_eq_some_iff.mp hl).1
      rw [List.getElem?_eq_getElem (by omega), Option.some_or] at ht
      refine ⟨⟨_, hl⟩, by omega, t, ?_⟩
      rw [List.getElem?_eq_getElem (by omega), ht]
  · rintro ⟨⟨name, hl⟩, hi, t, ht⟩
    refine ⟨⟨name, Text.joinLines (blockAtEnd (ls.take i))⟩,
      documentedAt_eq_some_iff.mpr ⟨hl, ?_, rfl⟩⟩
    refine blockAtEnd_ne_nil_iff.mpr ⟨t, ?_⟩
    rw [List.getLast?_take, if_neg (by omega), ht, Option.some_or]

theorem standsAt_of_documentedAt {ls : List Line} {i : Nat} {d : Documented}
    (h : documentedAt ls i = some d) : StandsAt ls i d := by
  obtain ⟨hl, -, hcomment⟩ := documentedAt_eq_some_iff.mp h
  obtain ⟨before, hbefore, hlast⟩ := blockAtEnd_eq_iff.mp (rfl : blockAtEnd (ls.take i) = _)
  exact ⟨hl, before, _, hbefore, hlast, hcomment⟩

/-- What a partial function gives for a list, next to the members that it gives it for. -/
theorem forall₂_filter_filterMap {α β : Type} (f : α → Option β) (xs : List α) :
    List.Forall₂ (fun x y => f x = some y) (xs.filter fun x => (f x).isSome) (xs.filterMap f) := by
  induction xs with
  | nil => exact .nil
  | cons x xs ih =>
    rw [List.filter_cons, List.filterMap_cons]
    cases hx : f x with
    | none => exact ih
    | some y => exact .cons hx ih

private theorem forall₂_filterMap_documentedAt (ls : List Line) (places : List Nat) :
    List.Forall₂ (StandsAt ls) (places.filter fun i => (documentedAt ls i).isSome)
      (places.filterMap (documentedAt ls)) :=
  (forall₂_filter_filterMap (documentedAt ls) places).imp fun _ _ => standsAt_of_documentedAt

/-- **Where the documented targets stand.** They are, from the first line to the last, those declared
right under a comment line, one for each such place, with the whole run of comment lines above. -/
theorem documented_places (t : Text) :
    ∃ places : List Nat, places.Pairwise (· < ·)
      ∧ (∀ i, i ∈ places ↔ IsDocumentedPlace (linesOf t) i)
      ∧ List.Forall₂ (StandsAt (linesOf t)) places (documented t) := by
  refine ⟨(List.range (linesOf t).length).filter fun i => (documentedAt (linesOf t) i).isSome,
    ?_, fun i => ?_, ?_⟩
  · exact List.Pairwise.filter _ List.pairwise_lt_range
  · rw [List.mem_filter, isSome_documentedAt_iff, List.mem_range]
    constructor
    · exact And.right
    · intro h
      obtain ⟨name, hl⟩ := h.1
      exact ⟨(List.getElem?_eq_some_iff.mp hl).1, h⟩
  · rw [documented_eq_filterMap]
    exact forall₂_filterMap_documentedAt _ _

/-- Two runs with a blank line between them: only the second one touches the declaration. -/
example : documented "## a\n\n## b\n##c\nx: y\nz:".toList = [⟨"x".toList, "b\nc".toList⟩] := by
  decide

end TargetDocs.Makefile
