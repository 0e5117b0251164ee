/-
Descriptions, line by line.

The comment of a target comes from lines, and its descriptions from a place where two line feeds follow each
other. Such a place is an empty line that has a line above it and a line below it:

* `hasBreak_joinLines_iff` — joined lines can be split exactly if there is an inner blank line;
* `splitDescription_joinLines_of_isLeast` — then they are split at the first one;
* `forall₂_documentingRuns` — the documented targets stand right below runs of comment lines;
* `descriptions_of_runs` — so the descriptions of every entry are given by the lines of its run.
-/
import Mathlib.Data.List.Forall2
import Mathlib.Order.Bounds.Defs
import TargetDocs.Proofs.Entry.Splitting
import TargetDocs.Proofs.Makefile.CommentRun
import TargetDocs.Proofs.Makefile.Place
import TargetDocs.Proofs.Text.Lines

namespace TargetDocs

/-- The line with the number `k`, counted from zero, is empty and neither the first nor the last one. -/
def IsInnerBlank (ls : List Text) (k : Nat) : Prop :=
  0 < k ∧ k + 1 < ls.length ∧ ls[k]? = some []

/-- The descriptions are those that the lines of a comment make: what stands above and below the first of
its inner blank lines, or all of it if there is none. -/
structure DescribedBy (ls : List Text) (short long : Text) : Prop where
  parted : ∀ k, IsLeast {k | IsInnerBlank ls k} k →
    short = Text.joinLines (ls.take k) ∧ long = Text.joinLines (ls.drop (k + 1))
  whole : (∀ k, ¬ IsInnerBlank ls k) → short = Text.joinLines ls ∧ long = []

variable {ls : List Text} {k : Nat}

/-! ### Blank lines and places to split at -/

theorem not_hasBreak_of_not_mem {t : Text} (h : '\n' ∉ t) : ¬ HasBreak t :=
  fun hbreak => h (hbreak.subset List.mem_cons_self)

theorem hasBreak_append_iff {l t : Text} (h : '\n' ∉ l) : HasBreak (l ++ t) ↔ HasBreak t := by
  induction l with
  | nil => rfl
  | cons c l ih =>
    obtain ⟨hc, hl⟩ := not_or.mp fun hmem => h (List.mem_cons.mpr hmem)
    rw [List.cons_append, hasBreak_cons_iff, ih hl, or_iff_right]
    exact fun hstart => hc hstart.1.symm

theorem isInnerBlank_succ_iff {l : Text} :
    IsInnerBlank (l :: ls) (k + 1) ↔ k + 1 < ls.length ∧ ls[k]? = some [] := by
  simp [IsInnerBlank]

theorem exists_isInnerBlank_cons_iff {l m : Text} :
    (∃ k, IsInnerBlank (l :: m :: ls) k)
      ↔ (m = [] ∧ ls ≠ []) ∨ ∃ k, IsInnerBlank (m :: ls) k := by
  constructor
  · rintro ⟨_ | _ | k, hk⟩
    · exact absurd hk.1 (Nat.lt_irrefl 0)
    · obtain ⟨hlength, hm⟩ := isInnerBlank_succ_iff.mp hk
      refine .inl ⟨Option.some.inj hm, ?_⟩
      rintro rfl
      exact absurd hlength (by simp)
    · exact .inr ⟨k + 1, Nat.succ_pos k, isInnerBlank_succ_iff.mp hk⟩
  · rintro (⟨rfl, hls⟩ | ⟨k, hpos, hk⟩)
    · have hlength := List.length_pos_iff.mpr hls
      exact ⟨1, isInnerBlank_succ_iff.mpr ⟨by simpa using hlength, rfl⟩⟩
    · exact ⟨k + 1, isInnerBlank_succ_iff.mpr hk⟩

theorem head?_joinLines_cons_iff {m : Text} (h : '\n' ∉ m) :
    (Text.joinLines (m :: ls)).head? = some '\n' ↔ m = [] ∧ ls ≠ [] := by
  rw [Text.joinLines, Text.join_cons]
  cases m with
  | nil => cases ls <;> simp
  | cons c m =>
    refine iff_of_false (fun hhead => h ?_) fun hm => List.cons_ne_nil c m hm.1
    obtain rfl := Option.some.inj hhead
    exact List.mem_cons_self

theorem hasBreak_joinLines_iff (h : ∀ l ∈ ls, '\n' ∉ l) :
    HasBreak (Text.joinLines ls) ↔ ∃ k, IsInnerBlank ls k := by
  induction ls with
  | nil => exact iff_of_false not_hasBreak_nil fun ⟨k, hk⟩ => absurd hk.2.1 (Nat.not_lt_zero _)
  | cons l ls ih =>
    have hl : '\n' ∉ l := h l List.mem_cons_self
    cases ls with
    | nil =>
      refine iff_of_false (not_hasBreak_of_not_mem hl) fun ⟨k, hpos, hlength, _⟩ => ?_
      rw [List.length_singleton] at hlength
      omega
    | cons m ls =>
      have hm : '\n' ∉ m := h m (by simp)
      have hjoin : Text.joinLines (l :: m :: ls) = l ++ '\n' :: Text.joinLines (m :: ls) := rfl
      rw [hjoin, hasBreak_append_iff hl, hasBreak_cons_iff,
        head?_joinLines_cons_iff hm, ih fun l hl => h l (List.mem_cons_of_mem _ hl),
        exists_isInnerBlank_cons_iff]
      exact or_congr_left (and_iff_right rfl)

/-! ### The descriptions of a comment -/

theorem IsInnerBlank.take_ne_nil (h : IsInnerBlank ls k) : ls.take k ≠ [] := by
  rw [ne_eq, List.take_eq_nil_iff, not_or]
  exact ⟨Nat.ne_of_gt h.1, List.ne_nil_of_length_pos (Nat.lt_of_le_of_lt (Nat.zero_le _) h.2.1)⟩

/-- An inner blank line makes two line feeds that follow each other. -/
theorem IsInnerBlank.joinLines_eq (h : IsInnerBlank ls k) :
    Text.joinLines ls
      = rejoin (Text.joinLines (ls.take k), Text.joinLines (ls.drop (k + 1))) := by
  obtain ⟨hk, hblank⟩ := List.getElem?_eq_some_iff.mp h.2.2
  have hbelow : ls.drop (k + 1) ≠ [] := by
    rw [ne_eq, List.drop_eq_nil_iff]
    exact Nat.not_le_of_lt h.2.1
  have hfeed : Text.joinLines ([] :: ls.drop (k + 1)) = '\n' :: Text.joinLines (ls.drop (k + 1)) :=
    Text.join_append '\n' (List.cons_ne_nil [] []) hbelow
  calc Text.joinLines ls
      = Text.joinLines (ls.take k ++ [] :: ls.drop (k + 1)) := by
        rw [← hblank, ← List.drop_eq_getElem_cons hk, List.take_append_drop]
    _ = Text.joinLines (ls.take k) ++ '\n' :: Text.joinLines ([] :: ls.drop (k + 1)) :=
        Text.join_append '\n' h.take_ne_nil (List.cons_ne_nil _ _)
    _ = rejoin (Text.joinLines (ls.take k), Text.joinLines (ls.drop (k + 1))) := by
        rw [hfeed, rejoin]

/-- Up to the first inner blank line no two line feeds follow each other. -/
theorem not_hasBreak_of_isLeast (h : ∀ l ∈ ls, '\n' ∉ l) (hk : IsLeast {k | IsInnerBlank ls k} k) :
    ¬ HasBreak (Text.joinLines (ls.take k) ++ ['\n']) := by
  have hend : Text.joinLines (ls.take k) ++ ['\n'] = Text.joinLines (ls.take k ++ [[]]) :=
    (Text.join_append '\n' hk.1.take_ne_nil (List.cons_ne_nil [] [])).symm
  have hlines : ∀ l ∈ ls.take k ++ [[]], '\n' ∉ l := by
    intro l hl
    rcases List.mem_append.mp hl with hl | hl
    · exact h l (List.mem_of_mem_take hl)
    · rw [List.mem_singleton.mp hl]
      exact List.not_mem_nil
  rw [hend, hasBreak_joinLines_iff hlines]
  -- a blank line above it would be an inner one of all the lines
  rintro ⟨i, hi, hik, hget⟩
  have hlength := hk.1.2.1
  rw [List.length_append, List.length_take_of_le (by omega), List.length_singleton] at hik
  rw [List.getElem?_append_left (by rw [List.length_take]; omega),
    List.getElem?_take_of_lt (by omega)] at hget
  have hle : k ≤ i := hk.2 ⟨hi, by omega, hget⟩
  omega

theorem splitDescription_joinLines_of_isLeast (h : ∀ l ∈ ls, '\n' ∉ l)
    (hk : IsLeast {k | IsInnerBlank ls k} k) :
    splitDescription (Text.joinLines ls)
      = (Text.joinLines (ls.take k), Text.joinLines (ls.drop (k + 1))) := by
  rw [hk.1.joinLines_eq, splitDescription_rejoin (not_hasBreak_of_isLeast h hk)]

theorem describedBy_splitDescription (h : ∀ l ∈ ls, '\n' ∉ l) :
    DescribedBy ls (splitDescription (Text.joinLines ls)).1
      (splitDescription (Text.joinLines ls)).2 where
  parted k hk := by
    rw [splitDescription_joinLines_of_isLeast h hk]
    exact ⟨rfl, rfl⟩
  whole hnone := by
    have hbreak : ¬ HasBreak (Text.joinLines ls) := by
      rwa [hasBreak_joinLines_iff h, not_exists]
    rw [splitDescription_of_noBreak hbreak]
    exact ⟨rfl, rfl⟩

/-! ### The comments of a Makefile -/

namespace Makefile

theorem IsCommentRun.lineFeed_not_mem {t : Text} {r : CommentRun} (h : IsCommentRun (linesOf t) r) :
    ∀ l ∈ r.texts, '\n' ∉ l := by
  intro l hl
  obtain ⟨before, after, hls, -⟩ := h.longest
  have hmem : Line.comment l ∈ linesOf t := by
    rw [hls]
    exact List.mem_append_left _ (List.mem_append_right _ (List.mem_map_of_mem hl))
  obtain ⟨line, -, hline⟩ := List.mem_map.mp hmem
  exact Line.lineFeed_not_mem_of_classify hline

theorem CommentRun.documented?_eq_some_iff {ls : List Line} {r : CommentRun} {d : Documented} :
    r.documented? ls = some d
      ↔ ls[r.stop]? = some (.target d.target) ∧ d.comment = Text.joinLines r.texts := by
  rw [CommentRun.documented?]
  cases ls[r.stop]? with
  | none => simp
  | some l =>
    cases l with
    | comment t => simp
    | other t => simp
    | target name =>
      obtain ⟨target, comment⟩ := d
      simp [eq_comm]

theorem CommentRun.isSome_documented?_iff {ls : List Line} {r : CommentRun} :
    (r.documented? ls).isSome ↔ ∃ name, ls[r.stop]? = some (.target name) := by
  rw [Option.isSome_iff_exists]
  constructor
  · rintro ⟨d, hd⟩
    exact ⟨d.target, (CommentRun.documented?_eq_some_iff.mp hd).1⟩
  · rintro ⟨name, hname⟩
    exact ⟨⟨name, Text.joinLines r.texts⟩, CommentRun.documented?_eq_some_iff.mpr ⟨hname, rfl⟩⟩

/-- The runs of comment lines right above a declaration. -/
def documentingRuns (ls : List Line) : List CommentRun :=
  (commentRuns ls).filter fun r => (r.documented? ls).isSome

theorem mem_documentingRuns_iff {ls : List Line} {r : CommentRun} :
    r ∈ documentingRuns ls ↔ IsCommentRun ls r ∧ ∃ name, ls[r.stop]? = some (.target name) := by
  rw [documentingRuns, List.mem_filter, mem_commentRuns_iff, CommentRun.isSome_documented?_iff]

/-- The documented targets are those below these runs, in the order of the runs. -/
theorem forall₂_documentingRuns (t : Text) :
    List.Forall₂ (fun r d => (linesOf t)[r.stop]? = some (.target d.target)
      ∧ d.comment = Text.joinLines r.texts) (documentingRuns (linesOf t)) (documented t) := by
  have hruns := forall₂_filter_filterMap (CommentRun.documented? (linesOf t)) (commentRuns (linesOf t))
  rw [documented_eq_filterMap_runs]
  exact hruns.imp fun r d hd => CommentRun.documented?_eq_some_iff.mp hd

theorem forall₂_ofMakefile (t : Text) :
    List.Forall₂ (fun r e => (linesOf t)[r.stop]? = some (.target e.target)
      ∧ DescribedBy r.texts e.short e.long) (documentingRuns (linesOf t)) (Entry.ofMakefile [] t) := by
  have hlines : ∀ r ∈ documentingRuns (linesOf t), ∀ l ∈ r.texts, '\n' ∉ l :=
    fun r hr => (mem_documentingRuns_iff.mp hr).1.lineFeed_not_mem
  rw [Entry.ofMakefile, List.forall₂_map_right_iff]
  refine ((List.forall₂_and_left _ _).mpr ⟨hlines, forall₂_documentingRuns t⟩).imp ?_
  rintro r d ⟨hlines, htarget, hcomment⟩
  have hdescribed := describedBy_splitDescription hlines
  rw [← hcomment] at hdescribed
  exact ⟨htarget, hdescribed⟩

/-- **Descriptions follow the comment line by line.** The documented targets are those right below the longest
runs of comment lines that a declaration ends, and their comments are the lines of these runs. In the entry of
such a target the short description is what stands above the first line of the run that is empty, but neither
the first nor the last one, and the long description is what stands below it. If there is no such line, the
short description is the whole run and the long one is empty. -/
theorem descriptions_of_runs (t : Text) :
    ∃ runs : List CommentRun, runs.Pairwise (fun r q => r.stop < q.start)
      ∧ (∀ r, r ∈ runs
        ↔ IsCommentRun (linesOf t) r ∧ ∃ name, (linesOf t)[r.stop]? = some (.target name))
      ∧ List.Forall₂ (fun r d => (linesOf t)[r.stop]? = some (.target d.target)
        ∧ d.comment = Text.joinLines r.texts) runs (documented t)
      ∧ List.Forall₂ (fun r e => (linesOf t)[r.stop]? = some (.target e.target)
        ∧ DescribedBy r.texts e.short e.long) runs (Entry.ofMakefile [] t) :=
  ⟨documentingRuns (linesOf t), (pairwise_commentRuns (linesOf t)).filter _,
    fun _ => mem_documentingRuns_iff, forall₂_documentingRuns t, forall₂_ofMakefile t⟩

/-- Of the three empty lines the first and the last one part nothing. -/
example : Entry.ofMakefile [] "##\n##\n## a\n##\nx:".toList
    = [⟨"x".toList, [], "a\n".toList, false⟩] := by decide

end Makefile

end TargetDocs
