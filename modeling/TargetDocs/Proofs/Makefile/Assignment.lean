/-
The default goal by a plain scan.

The goal is found by a search that gives back what it took and tries again. It never has to: an operator
does not begin with white space, and behind an operator everything matches. So the goal is read off the first
place where the variable, white space and an operator follow each other:

* `matchFrom_eq_none_iff`, `matchFrom_of_assignment` — the pattern matches where an assignment begins, and
  what its pieces take is what lies between two marks that a plain scan finds;
* `search_of_first` — the search takes the first assignment;
* `assigns_append_iff` — whether an assignment begins at a place is decided by the next operator;
* `valueStart_append` — where a value begins is decided by the text up to its first character;
* `defaultGoal_plain_scan` — the goal, and what cannot change it.
-/
import Mathlib.Order.Bounds.Defs
import TargetDocs.Makefile.Goal
import TargetDocs.Proofs.Pattern.Greedy
import TargetDocs.Proofs.Text.Lines

namespace TargetDocs.Makefile

open Pattern

/-- A character of an operator: a question mark, an equals sign or a colon. -/
def IsSign (c : Char) : Prop := c = '?' ∨ c = '=' ∨ c = ':'

instance (c : Char) : Decidable (IsSign c) := inferInstanceAs (Decidable (_ ∨ _))

/-- The text begins with the variable, white space and a sign, and goes on with `rest`. -/
structure Assignment (t blanks : Text) (op : Char) (rest : Text) : Prop where
  text_eq : t = goalVariable ++ blanks ++ op :: rest
  blank : ∀ c ∈ blanks, Text.isBlank c
  operator : IsSign op

/-- An assignment begins the text. -/
def Assigns (t : Text) : Prop := ∃ blanks op rest, Assignment t blanks op rest

/-- The second character of an operator, if it has one, given what comes behind its first one. -/
def secondSign : Text → Text
  | c :: _ => if IsSign c then [c] else []
  | [] => []

/-- What comes behind an operator, given what comes behind its first character. -/
def behindOperator : Text → Text
  | c :: t => if IsSign c then t else c :: t
  | [] => []

/-- The text from where the value of an assignment begins, given what comes behind the first character of
its operator. -/
def valueStart (rest : Text) : Text := (behindOperator rest).dropWhile Text.isBlank

variable {t blanks rest : Text} {op : Char}

/-! ### Signs and white space -/

theorem isOperatorChar_iff {c : Char} : isOperatorChar c ↔ IsSign c := by
  simp [isOperatorChar, IsSign, or_assoc]

theorem IsSign.not_isBlank {c : Char} (h : IsSign c) : ¬ Text.isBlank c := by
  rcases h with rfl | rfl | rfl <;> decide

theorem IsSign.not_mem_goalVariable {c : Char} (h : IsSign c) : c ∉ goalVariable := by
  rcases h with rfl | rfl | rfl <;> decide

theorem behindOperator_cons_of_sign {c : Char} (hc : IsSign c) (t : Text) : behindOperator (c :: t) = t := by
  rw [behindOperator, if_pos hc]

theorem secondSign_append_behindOperator (rest : Text) :
    secondSign rest ++ behindOperator rest = rest := by
  cases rest with
  | nil => rfl
  | cons c t =>
    rw [secondSign, behindOperator]
    split <;> rfl

/-- Behind the variable and white space the next sign is that of the assignment. -/
theorem Assignment.sign_not_mem (h : Assignment t blanks op rest) {c : Char}
    (hc : IsSign c) : c ∉ goalVariable ++ blanks := by
  rw [List.mem_append, not_or]
  exact ⟨hc.not_mem_goalVariable, fun hmem => hc.not_isBlank (h.blank c hmem)⟩

/-! ### The pieces of the pattern -/

theorem matchFrom_line (t : Text) :
    matchFrom [.run (· ≠ '\n') 0 none] t = some [Text.firstLine t] := by
  rw [matchFrom_run_of_some (m := []) (Nat.zero_le _) (matchFrom_nil _), take_reach, Text.firstLine]

theorem matchFrom_value (t : Text) :
    matchFrom [.run Text.isBlank 0 none, .run (· ≠ '\n') 0 none] t
      = some [t.takeWhile Text.isBlank, Text.firstLine (t.dropWhile Text.isBlank)] := by
  rw [matchFrom_run_of_some (Nat.zero_le _) (matchFrom_line _), take_reach, drop_reach]

theorem reach_operator (hop : IsSign op) (rest : Text) :
    reach isOperatorChar (some 2) (op :: rest) = (op :: secondSign rest).length := by
  rw [reach, List.takeWhile_cons_of_pos (isOperatorChar_iff.mpr hop)]
  cases rest with
  | nil => rfl
  | cons c t =>
    rw [secondSign]
    split
    · next hc =>
      rw [List.takeWhile_cons_of_pos (isOperatorChar_iff.mpr hc)]
      simp
    · next hc =>
      rw [List.takeWhile_cons_of_neg fun h => hc (isOperatorChar_iff.mp h)]
      rfl

/-- The pieces from the operator on match exactly the texts that begin with a sign. -/
theorem matchFrom_operator (hop : IsSign op) (rest : Text) :
    matchFrom [.run isOperatorChar 1 (some 2), .run Text.isBlank 0 none, .run (· ≠ '\n') 0 none]
        (op :: rest)
      = some [op :: secondSign rest, (behindOperator rest).takeWhile Text.isBlank,
          Text.firstLine (valueStart rest)] := by
  have hsplit : op :: rest = (op :: secondSign rest) ++ behindOperator rest := by
    rw [List.cons_append, secondSign_append_behindOperator]
  have hreach := reach_operator hop rest
  have htake : (op :: rest).take (reach isOperatorChar (some 2) (op :: rest)) = op :: secondSign rest := by
    rw [hreach, hsplit]
    exact List.take_left' rfl
  have hdrop : (op :: rest).drop (reach isOperatorChar (some 2) (op :: rest)) = behindOperator rest := by
    rw [hreach, hsplit]
    exact List.drop_left' rfl
  rw [matchFrom_run_of_some (by rw [hreach]; exact Nat.succ_pos _) (by rw [hdrop, matchFrom_value]),
    htake, valueStart]

theorem matchFrom_operator_of_noSign {ps : List Piece} (h : ∀ c ∈ t.head?, ¬ IsSign c) :
    matchFrom (.run isOperatorChar 1 (some 2) :: ps) t = none := by
  apply matchFrom_run_of_short
  cases t with
  | nil => exact Nat.one_pos
  | cons c t =>
    have hc : ¬ isOperatorChar c := fun hc => h c rfl (isOperatorChar_iff.mp hc)
    rw [reach, List.takeWhile_cons_of_neg hc]
    exact Nat.one_pos

/-! ### Where the pattern matches -/

/-- White space in front of the operator is never given back: no operator begins with it. -/
theorem matchFrom_goalVariable_append (t : Text) :
    matchFrom goalPattern (goalVariable ++ t)
      = (matchFrom [.run isOperatorChar 1 (some 2), .run Text.isBlank 0 none, .run (· ≠ '\n') 0 none]
          (t.dropWhile Text.isBlank)).map fun m => goalVariable :: t.takeWhile Text.isBlank :: m := by
  rw [goalPattern, matchFrom_fixed_append, matchFrom_run_unbounded, Option.map_map]
  · rfl
  · intro c s hc
    refine matchFrom_operator_of_noSign fun d hd hsign => hsign.not_isBlank ?_
    obtain rfl := Option.some.inj hd
    exact hc

theorem matchFrom_of_assignment (h : Assignment t blanks op rest) :
    matchFrom goalPattern t
      = some [goalVariable, blanks, op :: secondSign rest, (behindOperator rest).takeWhile Text.isBlank,
          Text.firstLine (valueStart rest)] := by
  have hop : ¬ Text.isBlank op := h.operator.not_isBlank
  rw [h.text_eq, List.append_assoc, matchFrom_goalVariable_append,
    List.takeWhile_append_of_pos h.blank, List.dropWhile_append_of_pos h.blank,
    List.takeWhile_cons_of_neg hop, List.dropWhile_cons_of_neg hop, List.append_nil,
    matchFrom_operator h.operator]
  rfl

theorem matchFrom_eq_none_iff : matchFrom goalPattern t = none ↔ ¬ Assigns t := by
  constructor
  · rintro hnone ⟨blanks, op, rest, h⟩
    cases hnone.symm.trans (matchFrom_of_assignment h)
  · intro hno
    by_cases hvariable : goalVariable <+: t
    · obtain ⟨s, rfl⟩ := hvariable
      rw [matchFrom_goalVariable_append, matchFrom_operator_of_noSign, Option.map_none]
      intro c hc hsign
      obtain ⟨rest, hrest⟩ := List.head?_eq_some_iff.mp hc
      refine hno ⟨s.takeWhile Text.isBlank, c, rest, ?_, fun d hd => List.mem_takeWhile_imp hd, hsign⟩
      rw [List.append_assoc, ← hrest, List.takeWhile_append_dropWhile]
    · exact matchFrom_fixed_of_not_prefix hvariable

instance (t : Text) : Decidable (Assigns t) :=
  decidable_of_iff (matchFrom goalPattern t ≠ none) (by rw [ne_eq, matchFrom_eq_none_iff, not_not])

/-! ### The first assignment -/

/-- No assignment begins in `before` if `s` follows it. -/
def NoneBegins (before s : Text) : Prop := ∀ i < before.length, ¬ Assigns ((before ++ s).drop i)

theorem search_append_of_noneBegins {before s : Text} (h : NoneBegins before s) :
    search goalPattern (before ++ s) = search goalPattern s :=
  search_append_of_none fun i hi => matchFrom_eq_none_iff.mpr (h i hi)

theorem defaultGoal_append_of_noneBegins {before s : Text} (h : NoneBegins before s) :
    defaultGoal (before ++ s) = defaultGoal s := by
  rw [defaultGoal, search_append_of_noneBegins h, defaultGoal]

theorem defaultGoal_of_assignment (h : Assignment t blanks op rest) :
    defaultGoal t = Text.firstLine (valueStart rest) := by
  rw [defaultGoal, search_of_matchFrom (matchFrom_of_assignment h)]
  rfl

theorem defaultGoal_of_none (h : ∀ i, ¬ Assigns (t.drop i)) : defaultGoal t = [] :=
  defaultGoal_of_search_eq_none (search_eq_none_iff.mpr fun i => matchFrom_eq_none_iff.mpr (h i))

/-- A text has a first assignment, unless it has none at all. -/
theorem none_or_first (t : Text) :
    (∀ i, ¬ Assigns (t.drop i)) ∨ ∃ before s, t = before ++ s ∧ NoneBegins before s ∧ Assigns s := by
  induction t with
  | nil =>
    refine .inl fun i h => ?_
    obtain ⟨blanks, op, rest, h⟩ := h
    simpa using h.text_eq
  | cons c t ih =>
    by_cases hc : Assigns (c :: t)
    · exact .inr ⟨[], c :: t, rfl, fun i hi => absurd hi (Nat.not_lt_zero i), hc⟩
    · rcases ih with hnone | ⟨before, s, rfl, hbefore, hs⟩
      · refine .inl fun i => ?_
        cases i with
        | zero => exact hc
        | succ i => exact hnone i
      · refine .inr ⟨c :: before, s, rfl, fun i hi => ?_, hs⟩
        cases i with
        | zero => exact hc
        | succ i => exact hbefore i (Nat.lt_of_succ_lt_succ hi)

theorem noneBegins_of_isLeast {i : Nat} (h : IsLeast {i | Assigns (t.drop i)} i) :
    NoneBegins (t.take i) (t.drop i) := by
  intro j hj hassigns
  rw [List.take_append_drop] at hassigns
  exact absurd (h.2 hassigns) (Nat.not_le.mpr (hj.trans_le (List.length_take_le i t)))

/-! ### What comes behind an operator -/

theorem assigns_append_of_sign {s r : Text} (hop : IsSign op) (h : Assigns (s ++ op :: r))
    (r' : Text) : Assigns (s ++ op :: r') := by
  obtain ⟨blanks, sign, rest, h⟩ := h
  -- no sign stands in front of that of the assignment, so it is `op` or comes before it
  rcases List.append_eq_append_iff.mp h.text_eq with ⟨as, hvariable, hop'⟩ | ⟨bs, hs, hrest⟩
  · cases as with
    | nil =>
      obtain ⟨rfl, -⟩ := List.cons.inj hop'
      rw [List.append_nil] at hvariable
      exact ⟨blanks, op, r', by rw [hvariable], h.blank, hop⟩
    | cons a as =>
      obtain ⟨rfl, -⟩ := List.cons.inj hop'
      exact absurd (by rw [hvariable]; simp) (h.sign_not_mem hop)
  · cases bs with
    | nil =>
      obtain ⟨rfl, -⟩ := List.cons.inj hrest
      rw [List.append_nil] at hs
      exact ⟨blanks, sign, r', by rw [hs], h.blank, h.operator⟩
    | cons b bs =>
      obtain ⟨rfl, -⟩ := List.cons.inj hrest
      exact ⟨blanks, sign, bs ++ op :: r', by rw [hs]; simp, h.blank, h.operator⟩

/-- Whether an assignment begins a text is decided up to the next operator. -/
theorem assigns_append_iff {s : Text} (hop : IsSign op) (r r' : Text) :
    Assigns (s ++ op :: r) ↔ Assigns (s ++ op :: r') :=
  ⟨fun h => assigns_append_of_sign hop h r', fun h => assigns_append_of_sign hop h r⟩

/-- Whether an assignment is the first one does not depend on what comes behind its operator. -/
theorem NoneBegins.congr {before : Text} (h : NoneBegins before (goalVariable ++ blanks ++ op :: rest))
    (hop : IsSign op) (rest' : Text) :
    NoneBegins before (goalVariable ++ blanks ++ op :: rest') := by
  intro i hi
  have hi' := h i hi
  rw [List.drop_append_of_le_length hi.le, ← List.append_assoc] at hi' ⊢
  rwa [assigns_append_iff hop rest' rest]

theorem not_isBlank_head?_valueStart {c : Char} (h : (valueStart rest).head? = some c) :
    ¬ Text.isBlank c := by
  have hdrop := List.head?_dropWhile_not Text.isBlank (behindOperator rest)
  rw [valueStart] at h
  rw [h] at hdrop
  simpa using hdrop

/-- Another text with the same first character is read as behind the same operator. -/
theorem behindOperator_secondSign_append {s : Text} (h : s.head? = (behindOperator rest).head?) :
    behindOperator (secondSign rest ++ s) = s := by
  cases rest with
  | nil =>
    obtain rfl := List.head?_eq_none_iff.mp h
    rfl
  | cons c t =>
    by_cases hc : IsSign c
    · rw [secondSign, if_pos hc, List.singleton_append, behindOperator_cons_of_sign hc]
    · rw [behindOperator, if_neg hc] at h
      obtain ⟨more, rfl⟩ := List.head?_eq_some_iff.mp h
      rw [secondSign, if_neg hc, List.nil_append, behindOperator, if_neg hc]

/-- The value is found where it is whatever comes behind its first character. -/
theorem valueStart_append {c : Char} {more : Text} (h : valueStart rest = c :: more) :
    ∃ skipped, rest = skipped ++ c :: more ∧ ∀ other, valueStart (skipped ++ c :: other) = c :: other := by
  have hc : ¬ Text.isBlank c := not_isBlank_head?_valueStart (by rw [h]; rfl)
  have hbehind : behindOperator rest = (behindOperator rest).takeWhile Text.isBlank ++ c :: more := by
    rw [← h, valueStart, List.takeWhile_append_dropWhile]
  refine ⟨secondSign rest ++ (behindOperator rest).takeWhile Text.isBlank, ?_, fun other => ?_⟩
  · rw [List.append_assoc, ← hbehind, secondSign_append_behindOperator]
  · have hhead : ((behindOperator rest).takeWhile Text.isBlank ++ c :: other).head?
        = (behindOperator rest).head? := by
      have hsame := congrArg List.head? hbehind
      rw [List.head?_append, List.head?_cons] at hsame ⊢
      exact hsame.symm
    rw [List.append_assoc, valueStart, behindOperator_secondSign_append hhead,
      List.dropWhile_append_of_pos fun d hd => List.mem_takeWhile_imp hd,
      List.dropWhile_cons_of_neg hc]

/-! ### The goal -/

theorem lineFeed_not_mem_defaultGoal (t : Text) : '\n' ∉ defaultGoal t := by
  rcases none_or_first t with hnone | ⟨before, s, rfl, hbefore, blanks, op, rest, hs⟩
  · rw [defaultGoal_of_none hnone]
    exact List.not_mem_nil
  · rw [defaultGoal_append_of_noneBegins hbefore, defaultGoal_of_assignment hs]
    exact Text.lineFeed_not_mem_firstLine _

theorem not_isBlank_head?_defaultGoal {c : Char} (h : (defaultGoal t).head? = some c) :
    ¬ Text.isBlank c := by
  rcases none_or_first t with hnone | ⟨before, s, rfl, hbefore, blanks, op, rest, hs⟩
  · rw [defaultGoal_of_none hnone] at h
    cases h
  · rw [defaultGoal_append_of_noneBegins hbefore, defaultGoal_of_assignment hs] at h
    -- the first character of the line is that of the whole text from there on
    obtain ⟨after, hafter, -⟩ := Text.exists_firstLine_append (valueStart rest)
    have hhead : (valueStart rest).head? = some c := by
      rw [hafter, List.head?_append, h]
      rfl
    exact not_isBlank_head?_valueStart hhead

/-- What comes behind the line of a goal that is not empty does not matter. -/
theorem defaultGoal_of_same_line {before after : Text}
    (hbefore : NoneBegins before (goalVariable ++ blanks ++ op :: rest))
    (h : Assignment (goalVariable ++ blanks ++ op :: rest) blanks op rest)
    (hvalue : valueStart rest = Text.firstLine (valueStart rest) ++ after)
    (hne : Text.firstLine (valueStart rest) ≠ []) :
    ∃ kept, before ++ (goalVariable ++ blanks ++ op :: rest) = kept ++ after
      ∧ ∀ after', Text.EndsLine after' → defaultGoal (kept ++ after') = Text.firstLine (valueStart rest) := by
  obtain ⟨c, goal, hgoal⟩ := List.exists_cons_of_ne_nil hne
  rw [hgoal] at hvalue
  obtain ⟨skipped, rfl, hskipped⟩ := valueStart_append hvalue
  refine ⟨before ++ (goalVariable ++ blanks ++ op :: (skipped ++ c :: goal)), by simp, fun after' hafter => ?_⟩
  have hkept : before ++ (goalVariable ++ blanks ++ op :: (skipped ++ c :: goal)) ++ after'
      = before ++ (goalVariable ++ blanks ++ op :: (skipped ++ c :: (goal ++ after'))) := by
    simp
  have hassignment : Assignment (goalVariable ++ blanks ++ op :: (skipped ++ c :: (goal ++ after'))) blanks op
      (skipped ++ c :: (goal ++ after')) := ⟨rfl, h.blank, h.operator⟩
  have hline : '\n' ∉ c :: goal := hgoal ▸ Text.lineFeed_not_mem_firstLine _
  rw [hkept, defaultGoal_append_of_noneBegins (hbefore.congr h.operator _),
    defaultGoal_of_assignment hassignment, hskipped, hgoal]
  exact Text.firstLine_append hline hafter

/-- **The goal is found by a plain scan.** Without an assignment it is empty. Otherwise it is read off the
least place where the variable, white space and an operator follow each other: past the operator, one more
of its characters if there is one, and all white space, to the end of the line, and if it is not empty the
text behind that line can be any other. A goal has no line feed and no white space in front, and text in which
no assignment begins can stand in front of any other. -/
theorem defaultGoal_plain_scan (t : Text) :
    ((∀ i, ¬ Assigns (t.drop i)) → defaultGoal t = [])
      ∧ (∀ i blanks op rest, IsLeast {i | Assigns (t.drop i)} i →
        Assignment (t.drop i) blanks op rest →
        defaultGoal t = Text.firstLine (valueStart rest)
          ∧ (defaultGoal t ≠ [] → ∀ kept after after', t = kept ++ after →
            valueStart rest = defaultGoal t ++ after → Text.EndsLine after' →
            defaultGoal (kept ++ after') = defaultGoal t))
      ∧ '\n' ∉ defaultGoal t
      ∧ (∀ c, (defaultGoal t).head? = some c → ¬ Text.isBlank c)
      ∧ ∀ s, (∀ i < s.length, ¬ Assigns ((s ++ t).drop i)) → defaultGoal (s ++ t) = defaultGoal t := by
  refine ⟨defaultGoal_of_none, fun i blanks op rest hfirst h => ?_, lineFeed_not_mem_defaultGoal t,
    fun c => not_isBlank_head?_defaultGoal, fun s => defaultGoal_append_of_noneBegins⟩
  have hbefore := noneBegins_of_isLeast hfirst
  have hgoal : defaultGoal t = Text.firstLine (valueStart rest) := by
    rw [← List.take_append_drop i t, defaultGoal_append_of_noneBegins hbefore, defaultGoal_of_assignment h]
  refine ⟨hgoal, fun hne kept after after' ht hvalue hafter => ?_⟩
  rw [hgoal] at hvalue hne ⊢
  have htext := h.text_eq
  rw [htext] at hbefore h
  obtain ⟨kept', hkept, hbehind⟩ := defaultGoal_of_same_line hbefore h hvalue hne
  -- both ways the text is cut before the same rest
  rw [← htext, List.take_append_drop, ht] at hkept
  rw [List.append_cancel_right hkept]
  exact hbehind after' hafter

/-- The first mention of the variable is no assignment, and white space on both sides of the operator holds
line feeds. -/
theorem defaultGoal_plain_scan_second_mention :
    let t := "x.DEFAULT_GOAL .DEFAULT_GOAL\n?=\n a = b\nc".toList
    let kept := "x.DEFAULT_GOAL .DEFAULT_GOAL\n?=\n a = b".toList
    IsLeast {i | Assigns (t.drop i)} 15
      ∧ Assignment (t.drop 15) ['\n'] '?' "=\n a = b\nc".toList
      ∧ defaultGoal t = "a = b".toList
      ∧ ∀ after, Text.EndsLine after → defaultGoal (kept ++ after) = "a = b".toList := by
  intro t kept
  have hassignment : Assignment (t.drop 15) ['\n'] '?' "=\n a = b\nc".toList :=
    ⟨by decide, by simp; decide, by decide⟩
  have hfirst : IsLeast {i | Assigns (t.drop i)} 15 := by
    refine ⟨⟨_, _, _, hassignment⟩, fun j hj => Nat.le_of_not_lt fun hlt => ?_⟩
    exact (by decide : ∀ j < 15, ¬ Assigns (t.drop j)) j hlt hj
  obtain ⟨hgoal, hbehind⟩ := (defaultGoal_plain_scan t).2.1 15 _ _ _ hfirst hassignment
  have hvalue : defaultGoal t = "a = b".toList := hgoal.trans (by decide)
  refine ⟨hfirst, hassignment, hvalue, fun after hafter => ?_⟩
  rw [← hvalue]
  exact hbehind (by rw [hvalue]; decide) kept "\nc".toList after rfl (by rw [hvalue]; decide) hafter

end TargetDocs.Makefile
