/-
Which entry a default goal marks.

A line that assigns a name to the variable, with spaces and tabs around the operator, makes that name the
goal and marks its entry. The search for the goal knows operators of one or two characters, so that of the
operator with two colons leaves a character in front of the name, and then nothing is marked:

* `noneBegins_lines` — lines that do not mention the variable are passed over;
* `defaultGoal_of_lines` — the goal is the value on the first line that mentions it;
* `firstLine_valueStart_of_operator` — the value behind each operator;
* `result_load_one` — the entries of one file, with the goal marked;
* `load_of_assignment_line` — the goal and the mark.
-/
import TargetDocs.Proofs.Loading.LastDeclaration
import TargetDocs.Proofs.Makefile.Assignment
import TargetDocs.Proofs.Makefile.Grammar

namespace TargetDocs

namespace Makefile

variable {t u v name : Text}

/-! ### Lines that do not mention the variable -/

theorem prefix_of_prefix_append_cons {w x y : Text} {c : Char} (hc : c ∉ w) (h : w <+: x ++ c :: y) :
    w <+: x := by
  rcases List.prefix_or_prefix_of_prefix h (List.prefix_append x (c :: y)) with hw | ⟨z, rfl⟩
  · exact hw
  · -- what `w` has more than `x` would begin with the character
    cases z with
    | nil => simp
    | cons d z =>
      obtain ⟨rfl, -⟩ := List.cons_prefix_cons.mp ((List.prefix_append_right_inj x).mp h)
      exact absurd (by simp) hc

theorem NoneBegins.append {before between s : Text} (h : NoneBegins before (between ++ s))
    (h' : NoneBegins between s) : NoneBegins (before ++ between) s := by
  intro i hi
  rw [List.append_assoc]
  by_cases hlt : i < before.length
  · exact h i hlt
  · rw [List.length_append] at hi
    rw [List.drop_append, List.drop_eq_nil_of_le (Nat.le_of_not_lt hlt), List.nil_append]
    exact h' _ (by omega)

/-- An assignment does not begin on a line without the variable: that would reach over the line feed. -/
theorem noneBegins_line {l : Text} (h : ¬ goalVariable <:+: l) (s : Text) :
    NoneBegins (l ++ ['\n']) s := by
  rintro i hi ⟨blanks, op, rest, hassignment⟩
  rw [List.length_append, List.length_singleton] at hi
  have hdrop : (l ++ ['\n'] ++ s).drop i = l.drop i ++ '\n' :: s := by
    rw [List.append_assoc, List.drop_append_of_le_length (by omega)]
    rfl
  have hprefix : goalVariable <+: l.drop i ++ '\n' :: s := by
    rw [← hdrop, hassignment.text_eq, List.append_assoc]
    exact List.prefix_append _ _
  have hmention := prefix_of_prefix_append_cons (by decide) hprefix
  exact h (hmention.isInfix.trans (List.drop_suffix i l).isInfix)

theorem noneBegins_lines {above : List Text} (h : ∀ l ∈ above, ¬ goalVariable <:+: l) (s : Text) :
    NoneBegins (above.flatMap (· ++ ['\n'])) s := by
  induction above with
  | nil => exact fun i hi => absurd hi (Nat.not_lt_zero i)
  | cons l above ih =>
    rw [List.flatMap_cons]
    exact (noneBegins_line (h l List.mem_cons_self) _).append
      (ih fun k hk => h k (List.mem_cons_of_mem l hk))

/-- The goal is read off the first line that mentions the variable, if that begins with an assignment. -/
theorem defaultGoal_of_lines {above below : List Text} {l rest : Text} {op : Char}
    (hlines : Text.lines t = above ++ l :: below) (habove : ∀ k ∈ above, ¬ goalVariable <:+: k)
    (h : Assignment l u op rest) :
    defaultGoal t = Text.firstLine (valueStart (rest ++ below.flatMap ('\n' :: ·))) := by
  have ht : t = above.flatMap (· ++ ['\n']) ++ (l ++ below.flatMap ('\n' :: ·)) := by
    rw [← List.append_assoc, ← Text.join_around, ← hlines]
    exact (Text.join_cut t).symm
  have hassignment : Assignment (l ++ below.flatMap ('\n' :: ·)) u op
      (rest ++ below.flatMap ('\n' :: ·)) := by
    refine ⟨?_, h.blank, h.operator⟩
    rw [h.text_eq]
    simp
  rw [ht, defaultGoal_append_of_noneBegins (noneBegins_lines habove _),
    defaultGoal_of_assignment hassignment]

/-! ### The value of an assignment -/

theorem not_isBlank_of_isNameChar {c : Char} (h : isNameChar c) : ¬ Text.isBlank c := by
  have hcode := toNat_of_isNameChar h
  rw [Text.isBlank_of_visible (by omega) (by omega)]
  exact Bool.false_ne_true

theorem not_isSign_of_isNameChar {c : Char} (h : isNameChar c) : ¬ IsSign c := by
  rintro (rfl | rfl | rfl) <;> cases h

/-- Spaces and tabs. -/
def IsSpacing (t : Text) : Prop := ∀ c ∈ t, c = ' ' ∨ c = '\t'

theorem IsSpacing.isBlank (h : IsSpacing t) : ∀ c ∈ t, Text.isBlank c := by
  intro c hc
  rcases h c hc with rfl | rfl <;> decide

/-- The operators that assign. -/
def operators : List Text := [['='], ['?', '='], [':', '='], [':', ':', '=']]

theorem behindOperator_of_noSign (h : ∀ c ∈ t.head?, ¬ IsSign c) : behindOperator t = t := by
  cases t with
  | nil => rfl
  | cons c t => rw [behindOperator, if_neg (h c rfl)]

/-- Neither white space and a name nor a name alone begins with a sign or with more white space. -/
theorem valueStart_spacing (hv : IsSpacing v) (hname : IsName name) (after : Text) :
    behindOperator (v ++ name ++ after) = v ++ name ++ after
      ∧ (v ++ name ++ after).dropWhile Text.isBlank = name ++ after := by
  obtain ⟨c, more, rfl⟩ := List.exists_cons_of_ne_nil hname.1
  have hc : isNameChar c := isNameChar_of_isName hname c List.mem_cons_self
  constructor
  · refine behindOperator_of_noSign fun d hd => ?_
    cases v with
    | nil =>
      obtain rfl := Option.some.inj hd
      exact not_isSign_of_isNameChar hc
    | cons e v =>
      obtain rfl := Option.some.inj hd
      rcases hv e List.mem_cons_self with rfl | rfl <;> decide
  · rw [List.append_assoc, List.dropWhile_append_of_pos hv.isBlank, List.cons_append,
      List.dropWhile_cons_of_neg (not_isBlank_of_isNameChar hc)]

/-- Behind the operator with two colons the value begins with its third character, behind the others with
the name. -/
theorem firstLine_valueStart_of_operator {op : Char} {more after : Text} (hv : IsSpacing v)
    (hname : IsName name) (hop : op :: more ∈ operators) (hafter : Text.EndsLine after) :
    Text.firstLine (valueStart (more ++ (v ++ name ++ after)))
      = if op :: more = [':', ':', '='] then '=' :: v ++ name else name := by
  obtain ⟨hbehind, hdrop⟩ := valueStart_spacing hv hname after
  have hline : '\n' ∉ name := lineFeed_not_mem_of_isName hname
  have hnamed : ∀ r, behindOperator r = v ++ name ++ after → Text.firstLine (valueStart r) = name := by
    intro r hr
    rw [valueStart, hr, hdrop]
    exact Text.firstLine_append hline hafter
  simp only [operators, List.mem_cons, List.cons.injEq, List.not_mem_nil, or_false] at hop
  rcases hop with ⟨rfl, rfl⟩ | ⟨rfl, rfl⟩ | ⟨rfl, rfl⟩ | ⟨rfl, rfl⟩
  · -- the equals sign alone
    rw [if_neg (by decide)]
    exact hnamed _ hbehind
  · -- the question mark and the equals sign
    rw [if_neg (by decide)]
    exact hnamed _ (behindOperator_cons_of_sign (by decide) _)
  · -- one colon and the equals sign
    rw [if_neg (by decide)]
    exact hnamed _ (behindOperator_cons_of_sign (by decide) _)
  · -- two colons and the equals sign, which is no blank
    have hspacing : '\n' ∉ v := fun hmem => by rcases hv _ hmem with h | h <;> cases h
    have hvalue : '\n' ∉ '=' :: v ++ name := by simp [hspacing, hline]
    rw [if_pos rfl, List.cons_append, valueStart, behindOperator_cons_of_sign (by decide),
      List.singleton_append, List.dropWhile_cons_of_neg (by decide), ← List.cons_append, ← List.cons_append]
    exact Text.firstLine_append hvalue hafter

theorem isSign_of_operator {op : Char} {more : Text} (h : op :: more ∈ operators) : IsSign op := by
  simp only [operators, List.mem_cons, List.cons.injEq, List.not_mem_nil, or_false] at h
  rcases h with ⟨rfl, -⟩ | ⟨rfl, -⟩ | ⟨rfl, -⟩ | ⟨rfl, -⟩ <;> decide

/-- The goal of a text in which the first mention of the variable assigns a name to it. -/
theorem defaultGoal_of_assignment_line {above below : List Text} {op : Text}
    (hlines : Text.lines t = above ++ (goalVariable ++ u ++ op ++ v ++ name) :: below)
    (habove : ∀ l ∈ above, ¬ goalVariable <:+: l) (hu : IsSpacing u) (hv : IsSpacing v)
    (hname : IsName name) (hop : op ∈ operators) :
    defaultGoal t = if op = [':', ':', '='] then '=' :: v ++ name else name := by
  cases op with
  | nil => exact absurd hop (by decide)
  | cons sign more =>
    have hassignment : Assignment (goalVariable ++ u ++ sign :: more ++ v ++ name) u sign
        (more ++ v ++ name) := ⟨by simp, hu.isBlank, isSign_of_operator hop⟩
    rw [defaultGoal_of_lines hlines habove hassignment, List.append_assoc, List.append_assoc,
      ← List.append_assoc v]
    exact firstLine_valueStart_of_operator hv hname hop (Text.endsLine_flatMap below)

end Makefile

namespace Loading

open Makefile

/-- One file is loaded with exactly the entry marked that its goal names. -/
theorem result_load_one {read : Reader} {path t : Text}
    (h : readText read (Path.ofText path) = .ok t) :
    ∃ c, (load read [path]).result = .ok c
      ∧ (∀ target, target ∈ c.targets ↔ ∃ d ∈ documented t, d.target = target)
      ∧ ∀ e ∈ c.entries, (e.isDefault ↔ defaultGoal t ≠ [] ∧ e.target = defaultGoal t) := by
  have hget : ∀ target, (Catalogue.empty.insertAll (entries t)).get? target
      = (entries t).reverse.find? fun e => e.target = target := by
    intro target
    rw [Catalogue.get?_insertAll, Catalogue.get?_empty, Option.or_none]
  have hentry : ∀ e, e ∈ entries t ↔ ∃ d ∈ documented t, Entry.ofDocumented d (defaultGoal t) = e :=
    fun e => List.mem_map
  have hload := result_loadInto_of_readable (.cons h .nil) .empty
  rw [List.flatMap_singleton] at hload
  refine ⟨_, hload, fun target => ?_, fun e he => ?_⟩
  · rw [Catalogue.mem_targets_iff, hget, ← Option.isSome_iff_exists, List.find?_isSome]
    simp only [List.mem_reverse, hentry, decide_eq_true_eq]
    constructor
    · rintro ⟨e, ⟨d, hd, rfl⟩, htarget⟩
      exact ⟨d, hd, htarget⟩
    · rintro ⟨d, hd, htarget⟩
      exact ⟨_, ⟨d, hd, rfl⟩, htarget⟩
  · rw [Catalogue.mem_entries_iff, hget] at he
    obtain ⟨d, -, rfl⟩ := (hentry e).mp (List.mem_reverse.mp (List.mem_of_find?_eq_some he))
    exact decide_eq_true_iff

/-- **An assignment makes its name the goal.** If the first mention of the variable is a line that assigns a
name to it, that name is the goal, and loading the text marks exactly the entry for the name. The operator with
two colons is the exception: its equals sign stays in front, and no entry is marked. -/
theorem load_of_assignment_line {t u v name op : Text} {above below : List Text}
    (hlines : Text.lines t = above ++ (goalVariable ++ u ++ op ++ v ++ name) :: below)
    (habove : ∀ l ∈ above, ¬ goalVariable <:+: l) (hu : IsSpacing u) (hv : IsSpacing v)
    (hname : IsName name) (hop : op ∈ operators) :
    defaultGoal t = (if op = [':', ':', '='] then '=' :: v ++ name else name)
      ∧ ∀ read path, readText read (Path.ofText path) = .ok t →
        ∃ c, (load read [path]).result = .ok c
          ∧ (∀ target, target ∈ c.targets ↔ ∃ d ∈ documented t, d.target = target)
          ∧ ∀ e ∈ c.entries, (e.isDefault ↔ op ≠ [':', ':', '='] ∧ e.target = name) := by
  have hgoal := defaultGoal_of_assignment_line hlines habove hu hv hname hop
  refine ⟨hgoal, fun read path hread => ?_⟩
  obtain ⟨c, hc, htargets, hmarks⟩ := result_load_one hread
  refine ⟨c, hc, htargets, fun e he => ?_⟩
  rw [hmarks e he, hgoal]
  split
  · next hop =>
    -- no documented target begins with an equals sign
    obtain ⟨d, hd, hdoc⟩ := (htargets e.target).mp (List.mem_map_of_mem he)
    have htarget : IsName e.target := hdoc ▸ isName_of_mem_documented hd
    refine ⟨fun hmark => ?_, fun hmark => absurd hop hmark.1⟩
    rw [hmark.2] at htarget
    exact absurd (isNameChar_of_isName htarget '=' (by simp)) (by decide)
  · next hop => simp [hop, hname.1]

/-- An assignment between two documented targets, to the one above it. -/
theorem load_of_assignment_line_between :
    let t := "## one\nall:\n.DEFAULT_GOAL \t?=\tall\n## two\nb: all".toList
    let tree := (⟨[]⟩ : FileTree).write "a.mk".toList (.file (Text.Utf8.encode t))
    defaultGoal t = "all".toList
      ∧ ∃ c, (load tree.read ["a.mk".toList]).result = .ok c ∧ "all".toList ∈ c.targets
        ∧ "b".toList ∈ c.targets ∧ ∀ e ∈ c.entries, (e.isDefault ↔ e.target = "all".toList) := by
  intro t tree
  have hlines : Text.lines t = ["## one".toList, "all:".toList]
      ++ (goalVariable ++ " \t".toList ++ "?=".toList ++ "\t".toList ++ "all".toList)
        :: ["## two".toList, "b: all".toList] := by decide +kernel
  have hread : readText tree.read (Path.ofText "a.mk".toList) = .ok t := by decide +kernel
  have hspacing : IsSpacing " \t".toList ∧ IsSpacing "\t".toList := by simp [IsSpacing]
  obtain ⟨hgoal, hload⟩ := load_of_assignment_line hlines (by decide +kernel) hspacing.1 hspacing.2
    (by decide : IsName "all".toList) (by decide)
  obtain ⟨c, hc, htargets, hmarks⟩ := hload tree.read _ hread
  have hdocumented : documented t = [⟨"all".toList, "one".toList⟩, ⟨"b".toList, "two".toList⟩] := by
    decide +kernel
  refine ⟨hgoal.trans (by decide), c, hc, ?_, ?_, fun e he => ?_⟩
  · simp [htargets, hdocumented]
  · simp [htargets, hdocumented]
  · rw [hmarks e he]
    exact and_iff_right (by decide)

/-- With two colons the equals sign is taken for a part of the goal. -/
theorem load_of_assignment_line_two_colons :
    let t := ".DEFAULT_GOAL ::= help\n## Show\nhelp:".toList
    let tree := (⟨[]⟩ : FileTree).write "a.mk".toList (.file (Text.Utf8.encode t))
    Text.lines t = (goalVariable ++ " ::= help".toList) :: ["## Show".toList, "help:".toList]
      ∧ defaultGoal t = "= help".toList
      ∧ ∃ c, (load tree.read ["a.mk".toList]).result = .ok c
        ∧ c.entries = [⟨"help".toList, "Show".toList, [], false⟩] := by
  intro t tree
  have hread : readText tree.read (Path.ofText "a.mk".toList) = .ok t := by decide +kernel
  refine ⟨by decide +kernel, by decide +kernel, _, result_loadInto_of_readable (.cons hread .nil) .empty, ?_⟩
  decide +kernel

end Loading

end TargetDocs
