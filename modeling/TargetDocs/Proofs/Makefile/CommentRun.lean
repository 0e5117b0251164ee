/-
What becomes of the comment lines of a Makefile.

A longest unbroken run of comment lines either documents the target declared right behind it or is
reported as discarded. No run is lost and none counts twice:

* `isCommentRun_iff` — a run that cannot be made longer is the block that the scan keeps before a line
  that is no comment, or before the end;
* `scanFrom_eq_filterMap` — the scan, from any place on, says of each run that ends there or later what
  becomes of it (`CommentRun.fate`), in the order of the places;
* `mem_commentRuns_iff`, `pairwise_commentRuns` — the runs of a text, all of them and in their order;
* `comment_runs_accounted` — so the documented targets and the reports are what becomes of the runs of a
  text, each of them once (`CommentRun.documented?`, `CommentRun.record?`).
-/
import TargetDocs.Loading
import TargetDocs.Proofs.Makefile.Block

namespace TargetDocs.Makefile

/-- Comment lines that follow each other: the place of the first one, counted from zero, and the texts of
all of them. -/
structure CommentRun where
  start : Nat
  texts : List Text
  deriving DecidableEq, Repr

/-- What becomes of a block of comment lines when the line of that number, or the end, is behind it. -/
def blockEnd (block : List Text) (number : Nat) : Option Line → BlockEnd
  | some (.target name) => .documents ⟨name, Text.joinLines block⟩
  | some _ => .discardedAt number
  | none => .discardedAtEnd

namespace CommentRun

/-- The place right behind the run. -/
def stop (r : CommentRun) : Nat := r.start + r.texts.length

/-- What becomes of a run among lines; their numbers count from one. -/
def fate (ls : List Line) (r : CommentRun) : BlockEnd := blockEnd r.texts (r.stop + 1) ls[r.stop]?

/-- The target that a run documents, if a declaration is right behind it. -/
def documented? (ls : List Line) (r : CommentRun) : Option Documented :=
  match ls[r.stop]? with
  | some (.target name) => some ⟨name, Text.joinLines r.texts⟩
  | _ => none

/-- What the log says of a run that documents no target. -/
def record? (ls : List Line) (r : CommentRun) : Option Record :=
  match ls[r.stop]? with
  | some (.target _) => none
  | some _ =>
    some ⟨.debug, "makedoc.parsing.scanner".toList,
      "Discarding comment block not followed by a target at line ".toList
        ++ Text.decimal (r.stop + 1)⟩
  | none =>
    some ⟨.debug, "makedoc.parsing.scanner".toList, "Discarding comment block at end of input".toList⟩

end CommentRun

/-- The run stands among the lines, it has at least one line, and no comment line is next to it. -/
structure IsCommentRun (ls : List Line) (r : CommentRun) : Prop where
  texts_ne_nil : r.texts ≠ []
  longest : ∃ before after, ls = before ++ r.texts.map .comment ++ after
    ∧ before.length = r.start
    ∧ (∀ t, before.getLast? ≠ some (.comment t)) ∧ ∀ t, after.head? ≠ some (.comment t)

/-- The run that ends right before the place `i`; there is none before a comment line. -/
def runBefore (ls : List Line) (i : Nat) : Option CommentRun :=
  match ls[i]? with
  | some (.comment _) => none
  | _ =>
    if blockAtEnd (ls.take i) = [] then none
    else some ⟨i - (blockAtEnd (ls.take i)).length, blockAtEnd (ls.take i)⟩

theorem length_blockAtEnd_le (ls : List Line) : (blockAtEnd ls).length ≤ ls.length := by
  obtain ⟨before, hls, -⟩ := blockAtEnd_eq_iff.mp (rfl : blockAtEnd ls = _)
  have hlength : ls.length = before.length + (blockAtEnd ls).length := by
    have := congrArg List.length hls
    rwa [List.length_append, List.length_map] at this
  omega

/-- What the run before a place is, once it is known that no comment line stands there. -/
theorem runBefore_of_noComment {ls : List Line} {i : Nat} (h : ∀ t, ls[i]? ≠ some (.comment t)) :
    runBefore ls i
      = if blockAtEnd (ls.take i) = [] then none
        else some ⟨i - (blockAtEnd (ls.take i)).length, blockAtEnd (ls.take i)⟩ := by
  unfold runBefore
  split
  · next t ht => exact absurd ht (h t)
  · rfl

theorem runBefore_eq_some_iff {ls : List Line} {i : Nat} {r : CommentRun} :
    runBefore ls i = some r
      ↔ (∀ t, ls[i]? ≠ some (.comment t)) ∧ r.texts ≠ [] ∧ blockAtEnd (ls.take i) = r.texts
        ∧ r.start = i - r.texts.length := by
  constructor
  · intro h
    have hcomment : ∀ t, ls[i]? ≠ some (.comment t) := by
      intro t ht
      rw [runBefore, ht] at h
      cases h
    rw [runBefore_of_noComment hcomment] at h
    split at h
    · cases h
    · next hblock =>
      obtain rfl := Option.some.inj h
      exact ⟨hcomment, hblock, rfl, rfl⟩
  · rintro ⟨hcomment, hne, hblock, hstart⟩
    rw [runBefore_of_noComment hcomment, hblock, if_neg hne, ← hstart]

theorem stop_of_runBefore {ls : List Line} {i : Nat} {r : CommentRun} (hi : i ≤ ls.length)
    (h : runBefore ls i = some r) : r.stop = i := by
  obtain ⟨-, -, hblock, hstart⟩ := runBefore_eq_some_iff.mp h
  have hle := length_blockAtEnd_le (ls.take i)
  rw [hblock, List.length_take] at hle
  rw [CommentRun.stop]
  omega

/-- A longest run is the block that the scan keeps before the place behind it. -/
theorem isCommentRun_iff {ls : List Line} {r : CommentRun} :
    IsCommentRun ls r ↔ r.stop ≤ ls.length ∧ runBefore ls r.stop = some r := by
  rw [runBefore_eq_some_iff, blockAtEnd_eq_iff]
  constructor
  · rintro ⟨hne, before, after, rfl, hstart, hbefore, hafter⟩
    have hstop : r.stop = (before ++ r.texts.map Line.comment).length := by
      rw [CommentRun.stop, List.length_append, List.length_map, hstart]
    refine ⟨?_, fun t => ?_, hne, ⟨before, ?_, hbefore⟩, ?_⟩
    · rw [hstop]
      exact (List.prefix_append _ after).length_le
    · rw [hstop, List.getElem?_append_right (Nat.le_refl _), Nat.sub_self, ← List.head?_eq_getElem?]
      exact hafter t
    · rw [hstop, List.take_left]
    · rw [CommentRun.stop]
      omega
  · rintro ⟨hle, hcomment, hne, ⟨before, hbefore, hlast⟩, -⟩
    refine ⟨hne, before, ls.drop r.stop, ?_, ?_, hlast, fun t => ?_⟩
    · rw [← hbefore, List.take_append_drop]
    · have hlength := congrArg List.length hbefore
      rw [List.length_take, List.length_append, List.length_map, CommentRun.stop] at hlength
      rw [CommentRun.stop] at hle
      omega
    · rw [List.head?_drop]
      exact hcomment t

/-- The lines of a run are comments. -/
theorem IsCommentRun.getElem?_eq_comment {ls : List Line} {r : CommentRun} (h : IsCommentRun ls r)
    {i : Nat} (hstart : r.start ≤ i) (hstop : i < r.stop) : ∃ t, ls[i]? = some (.comment t) := by
  obtain ⟨before, after, rfl, hbefore, -⟩ := h.longest
  rw [CommentRun.stop] at hstop
  have hi : i - before.length < r.texts.length := by omega
  refine ⟨r.texts[i - before.length], ?_⟩
  rw [List.append_assoc, List.getElem?_append_right (by omega),
    List.getElem?_append_left (by rwa [List.length_map]), List.getElem?_map,
    List.getElem?_eq_getElem hi, Option.map_some]

/-! ### The scan, run by run -/

/-- What the line of that number, or the end, does to the block above it. -/
def blockEnd? (block : List Text) (number : Nat) (l? : Option Line) : Option BlockEnd :=
  match l? with
  | some (.comment _) => none
  | _ => if block = [] then none else some (blockEnd block number l?)

theorem scanFrom_nil_eq (block : List Text) (number : Nat) :
    scanFrom block number [] = (blockEnd? block number none).toList := by
  rw [scanFrom_nil]
  unfold blockEnd?
  split <;> rfl

theorem scanFrom_cons (block : List Text) (number : Nat) (l : Line) (ls : List Line) :
    scanFrom block number (l :: ls)
      = (blockEnd? block number (some l)).toList
        ++ scanFrom (blockAfter block l) (number + 1) ls := by
  cases l with
  | comment t => rfl
  | target name =>
    rw [scanFrom_target]
    unfold blockEnd?
    dsimp only
    split <;> rfl
  | other t =>
    rw [scanFrom_other]
    unfold blockEnd?
    dsimp only
    split <;> rfl

/-- What becomes of the run before a place, if there is one, is what the scan does there. -/
theorem fate_runBefore (read ls : List Line) :
    (runBefore (read ++ ls) read.length).map (CommentRun.fate (read ++ ls))
      = blockEnd? (blockAtEnd read) (read.length + 1) ls.head? := by
  have hline : (read ++ ls)[read.length]? = ls.head? := by
    rw [List.getElem?_append_right (Nat.le_refl _), Nat.sub_self, ← List.head?_eq_getElem?]
  have hstop : read.length - (blockAtEnd read).length + (blockAtEnd read).length = read.length :=
    Nat.sub_add_cancel (length_blockAtEnd_le read)
  by_cases hcomment : ∃ t, ls.head? = some (.comment t)
  · obtain ⟨t, ht⟩ := hcomment
    rw [runBefore, hline, ht]
    rfl
  · have hblockEnd : blockEnd? (blockAtEnd read) (read.length + 1) ls.head?
        = if blockAtEnd read = [] then none
          else some (blockEnd (blockAtEnd read) (read.length + 1) ls.head?) := by
      unfold blockEnd?
      split
      · next t ht => exact absurd ⟨t, ht⟩ hcomment
      · rfl
    rw [runBefore_of_noComment (by rw [hline]; exact not_exists.mp hcomment), List.take_left,
      hblockEnd]
    split
    · rfl
    · rw [Option.map_some, CommentRun.fate, CommentRun.stop, hstop, hline]

theorem scanFrom_eq_filterMap (read ls : List Line) :
    scanFrom (blockAtEnd read) (read.length + 1) ls
      = (List.range' read.length (ls.length + 1)).filterMap fun i =>
          (runBefore (read ++ ls) i).map (CommentRun.fate (read ++ ls)) := by
  -- `read` is what the scan has behind it: its block is the run at the end of `read`
  induction ls generalizing read with
  | nil =>
    rw [scanFrom_nil_eq, List.length_nil, List.range'_one, List.filterMap_cons, fate_runBefore,
      List.head?_nil]
    cases blockEnd? (blockAtEnd read) (read.length + 1) none <;> rfl
  | cons l ls ih =>
    have hread : read ++ l :: ls = (read ++ [l]) ++ ls := by
      rw [List.append_assoc, List.singleton_append]
    have hlater := ih (read ++ [l])
    rw [List.length_append, List.length_singleton, ← hread, blockAtEnd_concat] at hlater
    have hplaces : List.range' read.length (ls.length + 1 + 1)
        = read.length :: List.range' (read.length + 1) (ls.length + 1) := List.range'_succ
    rw [scanFrom_cons, hlater, List.length_cons, hplaces, List.filterMap_cons, fate_runBefore,
      List.head?_cons]
    cases blockEnd? (blockAtEnd read) (read.length + 1) (some l) <;> rfl

/-! ### The runs of a text -/

/-- The runs of comment lines, from the first line to the last. -/
def commentRuns (ls : List Line) : List CommentRun :=
  (List.range (ls.length + 1)).filterMap (runBefore ls)

theorem mem_commentRuns_iff {ls : List Line} {r : CommentRun} :
    r ∈ commentRuns ls ↔ IsCommentRun ls r := by
  rw [commentRuns, List.mem_filterMap, isCommentRun_iff]
  constructor
  · rintro ⟨i, hi, hrun⟩
    have hle : i ≤ ls.length := Nat.le_of_lt_succ (List.mem_range.mp hi)
    obtain rfl := stop_of_runBefore hle hrun
    exact ⟨hle, hrun⟩
  · rintro ⟨hle, hrun⟩
    exact ⟨r.stop, List.mem_range.mpr (Nat.lt_succ_of_le hle), hrun⟩

/-- The runs are in the order of their places, with a line between any two of them. -/
theorem pairwise_commentRuns (ls : List Line) :
    (commentRuns ls).Pairwise fun r q => r.stop < q.start := by
  rw [commentRuns, List.pairwise_filterMap]
  refine List.pairwise_lt_range.imp_of_mem fun {i j} hi hj hij r hr q hq => ?_
  have hrstop := stop_of_runBefore (Nat.le_of_lt_succ (List.mem_range.mp hi)) hr
  have hqstop := stop_of_runBefore (Nat.le_of_lt_succ (List.mem_range.mp hj)) hq
  have hqrun : IsCommentRun ls q := mem_commentRuns_iff.mp (List.mem_filterMap.mpr ⟨j, hj, hq⟩)
  -- the line behind `r` is no comment, so it is not one of the lines of `q`
  refine Nat.lt_of_not_le fun hle => ?_
  obtain ⟨t, ht⟩ := hqrun.getElem?_eq_comment (i := i) (by omega) (by omega)
  exact (runBefore_eq_some_iff.mp hr).1 t ht

theorem blockEnds_eq_map_fate (t : Text) :
    blockEnds t = (commentRuns (linesOf t)).map (CommentRun.fate (linesOf t)) := by
  rw [commentRuns, List.map_filterMap, List.range_eq_range']
  exact scanFrom_eq_filterMap [] (linesOf t)

/-- Every block that ends documents a target or is reported, and not both. -/
theorem length_documented_add_length_notices (t : Text) :
    (documented t).length + (notices t).length = (blockEnds t).length := by
  have hnot : ∀ e : BlockEnd, e.notice?.isSome = decide (¬ e.documented?.isSome = true) := by
    intro e
    cases e <;> rfl
  rw [documented, notices, List.length_filterMap_eq_countP, List.length_filterMap_eq_countP,
    List.length_eq_countP_add_countP fun e : BlockEnd => e.documented?.isSome]
  simp only [hnot]

theorem level_area_of_mem_notices {t : Text} {n : Notice} (h : n ∈ notices t) :
    n.level = .debug ∧ n.area = .scanner := by
  obtain ⟨e, -, he⟩ := List.mem_filterMap.mp h
  cases e with
  | documents d => cases he
  | discardedAt line =>
    cases he
    exact ⟨rfl, rfl⟩
  | discardedAtEnd =>
    cases he
    exact ⟨rfl, rfl⟩

theorem CommentRun.documented?_fate (ls : List Line) (r : CommentRun) :
    (r.fate ls).documented? = r.documented? ls := by
  rw [CommentRun.fate, CommentRun.documented?]
  cases ls[r.stop]? with
  | none => rfl
  | some l => cases l <;> rfl

theorem documented_eq_filterMap_runs (t : Text) :
    documented t = (commentRuns (linesOf t)).filterMap (CommentRun.documented? (linesOf t)) := by
  rw [documented, blockEnds_eq_map_fate, List.filterMap_map]
  exact congrArg (List.filterMap · _) (funext (CommentRun.documented?_fate (linesOf t)))

theorem notices_eq_filterMap_runs (t : Text) :
    notices t = (commentRuns (linesOf t)).filterMap fun r => (r.fate (linesOf t)).notice? := by
  rw [notices, blockEnds_eq_map_fate, List.filterMap_map]
  rfl

/-- The report about a run is recorded in these words, under whatever name the command line logs. -/
theorem CommentRun.map_record_notice?_fate (ls : List Line) (program : Text) (r : CommentRun) :
    (r.fate ls).notice?.map (·.record program) = r.record? ls := by
  rw [CommentRun.fate, CommentRun.record?]
  cases ls[r.stop]? with
  | none => rfl
  | some l => cases l <;> rfl

theorem records_notices (t program : Text) :
    (notices t).map (·.record program)
      = (commentRuns (linesOf t)).filterMap (CommentRun.record? (linesOf t)) := by
  rw [notices_eq_filterMap_runs, List.map_filterMap]
  exact congrArg (List.filterMap · _) (funext (CommentRun.map_record_notice?_fate (linesOf t) program))

/-- **No run of comment lines is lost.** The longest runs of a text, in their order, are what its scan
answers for: one documented target for each run right above a declaration, and for each of the others
one report, with the number of the line behind the run or about the end of the text. The log has these
reports at the level for debugging, in the words of `CommentRun.record?`, and no other of the scan. -/
theorem comment_runs_accounted (t : Text) :
    ∃ runs : List CommentRun, runs.Pairwise (fun r q => r.stop < q.start)
      ∧ (∀ r, r ∈ runs ↔ IsCommentRun (linesOf t) r)
      ∧ documented t = runs.filterMap (CommentRun.documented? (linesOf t))
      ∧ notices t = runs.filterMap (fun r => (r.fate (linesOf t)).notice?)
      ∧ (∀ n ∈ notices t, n.level = .debug ∧ n.area = .scanner)
      ∧ (∀ program, (notices t).map (·.record program)
        = runs.filterMap (CommentRun.record? (linesOf t)))
      ∧ (documented t).length + (notices t).length = runs.length := by
  refine ⟨commentRuns (linesOf t), pairwise_commentRuns _, fun r => mem_commentRuns_iff,
    documented_eq_filterMap_runs t, notices_eq_filterMap_runs t,
    fun n => level_area_of_mem_notices, records_notices t, ?_⟩
  rw [length_documented_add_length_notices, blockEnds_eq_map_fate, List.length_map]

/-- Three runs: the first one meets the blank line, which has the number 2, and the last one the end. -/
example : blockEnds "## a\n\n## b\n##c\nx: y\n## d".toList
    = [.discardedAt 2, .documents ⟨"x".toList, "b\nc".toList⟩, .discardedAtEnd] := by
  decide

end TargetDocs.Makefile
