/-
Scanning two texts with a line feed between them.

The scan carries one block over the seam, so the texts can be scanned apart unless comment lines at the
end of the first text come to stand above a declaration of the second one:

* `documented_append_eq` — the second text is scanned with the block that the first one ends with;
* `documented_append` — the result in terms of the two scans, with the block on both sides of the seam;
* `documented_take_prefix` — reading more lines adds documented targets only at the end.
-/
import TargetDocs.Proofs.Makefile.Block

namespace TargetDocs.Makefile

/-- Comment lines at the end of `a` stand above the declaration of `name` in `b`: only comment lines
come before it there. -/
def ReachesTarget (a b name : Text) : Prop :=
  blockAtEnd (linesOf a) ≠ []
    ∧ (linesOf b)[(blockAtStart (linesOf b)).length]? = some (.target name)

theorem documented_append_eq (a b : Text) :
    documented (a ++ '\n' :: b)
      = documented a ++ documentedFrom (blockAtEnd (linesOf a)) (linesOf b) := by
  rw [documented_eq_documentedFrom, linesOf_append, documentedFrom_append, foldl_blockAfter,
    documented_eq_documentedFrom]

theorem documented_take_prefix (t : Text) (k : Nat) :
    documented (Text.joinLines ((Text.lines t).take k)) <+: documented t := by
  have hlines : ∀ l ∈ (Text.lines t).take k, '\n' ∉ l :=
    fun l hl => Text.not_mem_of_mem_cut (List.mem_of_mem_take hl)
  refine ⟨documentedFrom ((((Text.lines t).take k).map Line.classify).foldl blockAfter [])
    (((Text.lines t).drop k).map Line.classify), ?_⟩
  rw [documented_joinLines hlines, ← documentedFrom_append, ← List.map_append,
    List.take_append_drop, documented_eq_documentedFrom, linesOf]

/-- The comment lines at the start join the block above, and the scan goes on behind them. -/
theorem documentedFrom_blockAtStart (block : List Text) (ls : List Line) :
    documentedFrom block ls
      = documentedFrom (block ++ blockAtStart ls) (ls.drop (blockAtStart ls).length) := by
  obtain ⟨after, hls, -⟩ := blockAtStart_eq_iff.mp (rfl : blockAtStart ls = _)
  have hdrop : ls.drop (blockAtStart ls).length = after :=
    (congrArg (List.drop _) hls).trans (List.drop_left' (List.length_map _))
  rw [hdrop, ← documentedFrom_comments, ← hls]

/-- Behind the comment lines at the start there is no further one. -/
theorem getElem?_length_blockAtStart (ls : List Line) (t : Text) :
    ls[(blockAtStart ls).length]? ≠ some (.comment t) := by
  induction ls with
  | nil => simp
  | cons l ls ih =>
    cases l with
    | comment u => simpa [blockAtStart] using ih
    | target name => simp [blockAtStart]
    | other u => simp [blockAtStart]

/-- Lines that do not begin with a comment or a declaration lose the block above them. -/
theorem documentedFrom_of_noTarget {ls : List Line} (hcomment : ∀ t, ls.head? ≠ some (.comment t))
    (htarget : ∀ name, ls.head? ≠ some (.target name)) (block : List Text) :
    documentedFrom block ls = documentedFrom [] ls := by
  rcases ls with _ | ⟨l, ls⟩
  · rfl
  · cases l with
    | comment t => exact absurd rfl (hcomment t)
    | target name => exact absurd rfl (htarget name)
    | other t => rfl

/-- **Scanning composes.** If comment lines before the seam reach a declaration behind it, its comment
is made of the lines on both sides, and nothing else changes. Otherwise the scan of the whole is that of
the one text and then that of the other. So what a first part of the lines documents comes first. -/
theorem documented_append (a b : Text) :
    (∀ name, ReachesTarget a b name →
      ∃ rest,
        documented b
            = (if blockAtStart (linesOf b) = [] then []
                else [⟨name, Text.joinLines (blockAtStart (linesOf b))⟩]) ++ rest
          ∧ documented (a ++ '\n' :: b)
            = documented a
              ++ ⟨name, Text.joinLines (blockAtEnd (linesOf a) ++ blockAtStart (linesOf b))⟩ :: rest)
      ∧ ((∀ name, ¬ ReachesTarget a b name) →
        documented (a ++ '\n' :: b) = documented a ++ documented b)
      ∧ ∀ t k, documented (Text.joinLines ((Text.lines t).take k)) <+: documented t := by
  refine ⟨fun name hname => ?_, fun hnone => ?_, documented_take_prefix⟩
  · -- the declaration comes right behind the comment lines of `b`
    obtain ⟨hblock, htarget⟩ := hname
    rw [← List.head?_drop] at htarget
    obtain ⟨more, hmore⟩ := List.head?_eq_some_iff.mp htarget
    refine ⟨documentedFrom [] more, ?_, ?_⟩
    · rw [documented_eq_documentedFrom, documentedFrom_blockAtStart, hmore, List.nil_append,
        documentedFrom, documentedBy]
      split <;> rfl
    · rw [documented_append_eq, documentedFrom_blockAtStart, hmore,
        documentedFrom_target (List.append_ne_nil_of_left_ne_nil hblock _)]
  · rw [documented_append_eq, documented_eq_documentedFrom b]
    by_cases hblock : blockAtEnd (linesOf a) = []
    · rw [hblock]
    · -- no declaration comes there, so both blocks are lost at the same line
      have hcomment := getElem?_length_blockAtStart (linesOf b)
      have htarget : ∀ name,
          (linesOf b)[(blockAtStart (linesOf b)).length]? ≠ some (.target name) :=
        fun name hname => hnone name ⟨hblock, hname⟩
      simp only [← List.head?_drop] at hcomment htarget
      rw [documentedFrom_blockAtStart, documentedFrom_blockAtStart [],
        documentedFrom_of_noTarget hcomment htarget,
        documentedFrom_of_noTarget hcomment htarget ([] ++ _)]

/-- A seam within a block, with an empty line of comment on each side. -/
theorem documented_append_within_block :
    documented ("## p\np:\n## a\n##".toList ++ '\n' :: "##\n## b\nx: y\n## q\nq:".toList)
      = [⟨"p".toList, "p".toList⟩, ⟨"x".toList, "a\n\n\nb".toList⟩, ⟨"q".toList, "q".toList⟩] := by
  obtain ⟨rest, hb, hab⟩ := (documented_append "## p\np:\n## a\n##".toList
    "##\n## b\nx: y\n## q\nq:".toList).1 "x".toList ⟨by decide, by decide⟩
  have hrest : rest = [⟨"q".toList, "q".toList⟩] := by
    have hscan : documented "##\n## b\nx: y\n## q\nq:".toList
      = [⟨"x".toList, "\nb".toList⟩, ⟨"q".toList, "q".toList⟩] := by decide
    rw [hscan] at hb
    exact (List.cons.inj hb).2.symm
  rw [hab, hrest]
  decide

end TargetDocs.Makefile
