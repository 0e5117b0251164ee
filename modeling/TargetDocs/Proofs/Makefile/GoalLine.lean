/-
On which line the default goal stands.

The white space around an operator may hold line feeds. So an assignment is spread over lines if its
operator is not on the line of the variable, or if nothing but white space follows the operator on its line:

* `dropWhile_isBlank_of_filled` — white space ends on the line, if anything else is there;
* `lineFeed_mem_takeWhile_isBlank_iff` — and goes on behind it otherwise;
* `goal_of_match` — the two exceptions, and that without them the assignment lies in one line and the lines
  behind it do not matter;
* `goal_of_match_next_line` — one of the exceptions.
-/
import TargetDocs.Proofs.Makefile.Assignment

namespace TargetDocs.Makefile

open Pattern

/-- Nothing but white space. -/
def IsBlankText (t : Text) : Prop := ∀ c ∈ t, Text.isBlank c

/-! ### White space on a line -/

theorem dropWhile_isBlank_eq_nil_iff {t : Text} : t.dropWhile Text.isBlank = [] ↔ IsBlankText t :=
  List.dropWhile_eq_nil_iff

/-- On a line that holds more than white space, the white space in front ends. -/
theorem dropWhile_isBlank_of_filled {t : Text} (h : ¬ IsBlankText (Text.firstLine t)) :
    Text.firstLine (t.dropWhile Text.isBlank) = (Text.firstLine t).dropWhile Text.isBlank := by
  obtain ⟨after, ht, hafter⟩ := Text.exists_firstLine_append t
  have hne : ¬ ((Text.firstLine t).dropWhile Text.isBlank).isEmpty := by
    rwa [List.isEmpty_iff, dropWhile_isBlank_eq_nil_iff]
  have hline : '\n' ∉ (Text.firstLine t).dropWhile Text.isBlank := fun hmem =>
    Text.lineFeed_not_mem_firstLine t (List.dropWhile_subset _ hmem)
  have hdrop : t.dropWhile Text.isBlank = (Text.firstLine t).dropWhile Text.isBlank ++ after := by
    conv => lhs; rw [ht, List.dropWhile_append, if_neg hne]
  rw [hdrop, Text.firstLine_append hline hafter]

/-- White space in front goes on behind the line exactly if it fills the line and another line follows. -/
theorem lineFeed_mem_takeWhile_isBlank_iff {t : Text} :
    '\n' ∈ t.takeWhile Text.isBlank ↔ IsBlankText (Text.firstLine t) ∧ '\n' ∈ t := by
  obtain ⟨after, ht, hafter⟩ := Text.exists_firstLine_append t
  have hline := Text.lineFeed_not_mem_firstLine t
  constructor
  · intro hmem
    refine ⟨fun c hc => ?_, List.takeWhile_subset _ hmem⟩
    -- of the white space and the line, both at the start of the text, the line is the shorter one
    rcases List.prefix_or_prefix_of_prefix (List.takeWhile_prefix Text.isBlank) ⟨after, ht.symm⟩ with h | h
    · exact absurd (h.subset hmem) hline
    · exact List.mem_takeWhile_imp (h.subset hc)
  · rintro ⟨hblank, hmem⟩
    rw [ht, List.mem_append, or_iff_right hline] at hmem
    rcases hafter with rfl | hafter
    · cases hmem
    · obtain ⟨more, rfl⟩ := List.head?_eq_some_iff.mp hafter
      rw [ht, List.takeWhile_append_of_pos hblank, List.takeWhile_cons_of_pos (by decide)]
      simp

/-! ### The assignment found -/

variable {t before blanks rest : Text} {op : Char}

theorem lineFeed_not_mem_operator (hop : IsSign op) (rest : Text) :
    '\n' ∉ op :: secondSign rest := by
  have hfeed : ¬ IsSign '\n' := by decide
  intro hmem
  rcases List.mem_cons.mp hmem with rfl | h
  · exact hfeed hop
  · cases rest with
    | nil => cases h
    | cons c more =>
      rw [secondSign] at h
      split at h
      · next hc => exact hfeed (List.mem_singleton.mp h ▸ hc)
      · cases h

/-- A value is empty only if there is no text behind the operator: it does not begin with a line feed. -/
theorem firstLine_valueStart_eq_nil_iff :
    Text.firstLine (valueStart rest) = [] ↔ IsBlankText (behindOperator rest) := by
  rw [← dropWhile_isBlank_eq_nil_iff, ← valueStart]
  constructor
  · intro hline
    cases hstart : valueStart rest with
    | nil => rfl
    | cons c more =>
      have hc : c ≠ '\n' := by
        rintro rfl
        exact not_isBlank_head?_valueStart (by rw [hstart]; rfl) (by decide)
      rw [hstart, Text.firstLine, List.takeWhile_cons_of_pos (by simpa using hc)] at hline
      cases hline
  · intro hstart
    rw [hstart]
    rfl

/-- The parts of an assignment, put together. -/
theorem assignment_eq_append (blanks : Text) (op : Char) {after : Text}
    (h : valueStart rest = Text.firstLine (valueStart rest) ++ after) :
    goalVariable ++ blanks ++ op :: rest
      = [goalVariable, blanks, op :: secondSign rest, (behindOperator rest).takeWhile Text.isBlank,
          Text.firstLine (valueStart rest)].flatten ++ after := by
  have hbehind : behindOperator rest
      = (behindOperator rest).takeWhile Text.isBlank ++ (Text.firstLine (valueStart rest) ++ after) := by
    rw [← h, valueStart, List.takeWhile_append_dropWhile]
  have hrest : rest = secondSign rest ++ ((behindOperator rest).takeWhile Text.isBlank
      ++ (Text.firstLine (valueStart rest) ++ after)) := by
    rw [← hbehind, secondSign_append_behindOperator]
  simp only [List.flatten_cons, List.flatten_nil, List.append_assoc, List.cons_append, List.append_nil]
  exact congrArg (fun r => goalVariable ++ (blanks ++ op :: r)) hrest

/-- The search finds the first assignment, with all white space behind the operator. -/
theorem exists_assignment_of_search {m : List Text} (h : search goalPattern t = some m) :
    ∃ before blanks op rest, t = before ++ (goalVariable ++ blanks ++ op :: rest)
      ∧ NoneBegins before (goalVariable ++ blanks ++ op :: rest)
      ∧ Assignment (goalVariable ++ blanks ++ op :: rest) blanks op rest
      ∧ defaultGoal t = Text.firstLine (valueStart rest)
      ∧ m = [goalVariable, blanks, op :: secondSign rest,
          (behindOperator rest).takeWhile Text.isBlank, Text.firstLine (valueStart rest)] := by
  rcases none_or_first t with hnone | ⟨before, s, rfl, hbefore, blanks, op, rest, hs⟩
  · have hsearch := search_eq_none_iff.mpr fun i => matchFrom_eq_none_iff.mpr (hnone i)
    cases hsearch.symm.trans h
  · have hgoal : defaultGoal (before ++ s) = Text.firstLine (valueStart rest) := by
      rw [defaultGoal_append_of_noneBegins hbefore, defaultGoal_of_assignment hs]
    rw [search_append_of_noneBegins hbefore, search_of_matchFrom (matchFrom_of_assignment hs)] at h
    obtain rfl := hs.text_eq
    exact ⟨before, blanks, op, rest, rfl, hbefore, hs, hgoal, (Option.some.inj h).symm⟩

/-- An assignment without line feeds and with a value lies in one line, and the lines behind it do not
matter. -/
theorem assignment_in_line {m : List Text}
    (hbefore : NoneBegins before (goalVariable ++ blanks ++ op :: rest))
    (h : Assignment (goalVariable ++ blanks ++ op :: rest) blanks op rest)
    (hm : m = [goalVariable, blanks, op :: secondSign rest, (behindOperator rest).takeWhile Text.isBlank,
      Text.firstLine (valueStart rest)])
    (hline : '\n' ∉ m.flatten) (hne : Text.firstLine (valueStart rest) ≠ []) :
    ∃ above start below,
      Text.lines (before ++ (goalVariable ++ blanks ++ op :: rest)) = above ++ (start ++ m.flatten) :: below
        ∧ ∀ below', defaultGoal (Text.joinLines (above ++ (start ++ m.flatten) :: below'))
          = Text.firstLine (valueStart rest) := by
  obtain ⟨after, hvalue, hafter⟩ := Text.exists_firstLine_append (valueStart rest)
  have htext := assignment_eq_append blanks op hvalue
  rw [← hm] at htext
  obtain ⟨kept, hkept, hsame⟩ := defaultGoal_of_same_line hbefore h hvalue hne
  obtain ⟨above, start, below, hlines, hjoin⟩ := Text.lines_around before hline hafter
  rw [htext, ← List.append_assoc] at hkept ⊢
  obtain rfl := List.append_cancel_right hkept
  refine ⟨above, start, below, hlines, fun below' => ?_⟩
  rw [hjoin]
  exact hsame _ (Text.endsLine_flatMap below')

/-- **Where the goal comes from.** What the search finds lies in one line unless the white space in front of
the operator holds a line feed, or nothing else follows the operator on its line and there is another line.
Otherwise, if the line has a value, that is the goal, to the end of the line, and the lines behind it do not
matter. If it has none, the goal is the first line of text behind all white space, and empty only if there
is none in the whole text. -/
theorem goal_of_match {t : Text} {m : List Text} (h : search goalPattern t = some m) :
    ∃ before blanks operator behind,
      t = before ++ (goalVariable ++ blanks ++ operator ++ behind)
        ∧ NoneBegins before (goalVariable ++ blanks ++ operator ++ behind)
        ∧ m = [goalVariable, blanks, operator, behind.takeWhile Text.isBlank, defaultGoal t]
        ∧ ('\n' ∈ m.flatten
          ↔ '\n' ∈ blanks ∨ IsBlankText (Text.firstLine behind) ∧ '\n' ∈ behind)
        ∧ (¬ IsBlankText (Text.firstLine behind) →
          defaultGoal t ≠ [] ∧ defaultGoal t <:+ Text.firstLine behind)
        ∧ ('\n' ∉ blanks → ¬ IsBlankText (Text.firstLine behind) →
          ∃ above start below, Text.lines t = above ++ (start ++ m.flatten) :: below
            ∧ ∀ below', defaultGoal (Text.joinLines (above ++ (start ++ m.flatten) :: below'))
              = defaultGoal t)
        ∧ (IsBlankText (Text.firstLine behind) →
          defaultGoal t = Text.firstLine (behind.dropWhile Text.isBlank)
            ∧ (defaultGoal t = [] ↔ IsBlankText behind)) := by
  obtain ⟨before, blanks, op, rest, rfl, hbefore, hs, hgoal, hm⟩ := exists_assignment_of_search h
  have hoperator : goalVariable ++ blanks ++ (op :: secondSign rest) ++ behindOperator rest
      = goalVariable ++ blanks ++ op :: rest := by
    rw [List.append_assoc, List.cons_append, secondSign_append_behindOperator]
  have hflatten : '\n' ∈ m.flatten
      ↔ '\n' ∈ blanks ∨ IsBlankText (Text.firstLine (behindOperator rest)) ∧ '\n' ∈ behindOperator rest := by
    have hvariable : '\n' ∉ goalVariable := by decide
    have hsigns := lineFeed_not_mem_operator hs.operator rest
    have hvalue := Text.lineFeed_not_mem_firstLine (valueStart rest)
    rw [← lineFeed_mem_takeWhile_isBlank_iff, hm]
    simp only [List.flatten_cons, List.flatten_nil, List.mem_append, hvariable, hsigns, hvalue,
      List.not_mem_nil, false_or, or_false]
  have hfilled : ¬ IsBlankText (Text.firstLine (behindOperator rest)) →
      Text.firstLine (valueStart rest) ≠ []
        ∧ Text.firstLine (valueStart rest) <:+ Text.firstLine (behindOperator rest) := by
    intro hne
    rw [valueStart, dropWhile_isBlank_of_filled hne, ne_eq, dropWhile_isBlank_eq_nil_iff]
    exact ⟨hne, List.dropWhile_suffix _⟩
  refine ⟨before, blanks, op :: secondSign rest, behindOperator rest, by rw [hoperator], ?_, ?_, hflatten, ?_,
    fun hblanks hne => ?_, fun _ => ?_⟩
  · rwa [hoperator]
  · rw [hgoal, hm]
  · rwa [hgoal]
  · have hline : '\n' ∉ m.flatten := fun hmem =>
      (hflatten.mp hmem).elim hblanks fun hblank => hne hblank.1
    rw [hgoal]
    exact assignment_in_line hbefore hs hm hline (hfilled hne).1
  · rw [hgoal]
    exact ⟨rfl, firstLine_valueStart_eq_nil_iff⟩

/-- An assignment on the second of three lines, with a tab and a space around its operator and one behind its
value. -/
theorem goal_of_match_spaced :
    let t := "a:\n.DEFAULT_GOAL\t:= b c \nd:".toList
    let m := [goalVariable, ['\t'], ":=".toList, [' '], "b c ".toList]
    search goalPattern t = some m ∧ '\n' ∉ m.flatten ∧ defaultGoal t = "b c ".toList
      ∧ ∃ above start below, Text.lines t = above ++ (start ++ m.flatten) :: below
        ∧ ∀ below', defaultGoal (Text.joinLines (above ++ (start ++ m.flatten) :: below'))
          = "b c ".toList := by
  intro t m
  have hsearch : search goalPattern t = some m := by decide
  have hgoal : defaultGoal t = "b c ".toList := by decide
  have hline : '\n' ∉ m.flatten := by decide
  obtain ⟨before, blanks, operator, behind, -, -, -, hflatten, -, hlines, hblank⟩ := goal_of_match hsearch
  obtain ⟨hblanks, hbehind⟩ := not_or.mp (mt hflatten.mpr hline)
  -- a line of white space would be the last one, and the goal empty
  have hfilled : ¬ IsBlankText (Text.firstLine behind) := by
    intro hempty
    have hlast : Text.firstLine behind = behind :=
      Text.firstLine_of_not_mem fun hmem => hbehind ⟨hempty, hmem⟩
    cases hgoal.symm.trans ((hblank hempty).2.mpr (hlast ▸ hempty))
  rw [← hgoal]
  exact ⟨hsearch, hline, rfl, hlines hblanks hfilled⟩

/-- An assignment without a value takes the next line, whatever that is. -/
theorem goal_of_match_next_line :
    let line := ".DEFAULT_GOAL =".toList
    let t := Text.joinLines [line, "all: x".toList]
    ∃ m, search goalPattern t = some m ∧ '\n' ∈ m.flatten ∧ defaultGoal t = "all: x".toList
      ∧ ¬ defaultGoal t <:+ line
      ∧ defaultGoal (Text.joinLines [line, "b:".toList]) ≠ defaultGoal t := by
  refine ⟨[goalVariable, [' '], ['='], ['\n'], "all: x".toList], ?_⟩
  decide

end TargetDocs.Makefile
