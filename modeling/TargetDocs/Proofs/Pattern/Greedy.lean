/-
When the first try of a search is the last one.

A run of characters gives back what it took only if the pieces after it fail, and a search goes on to the
next position only if the whole pattern fails. Where one of the two cannot help, nothing has to be tried
again:

* `matchFrom_run_of_some` — if the pieces after the longest run match, the run stays the longest;
* `matchFrom_run_unbounded` — nor does it get shorter if the pieces after it cannot begin with one of its
  characters;
* `search_append_of_none` — the search passes over a text in which no match begins;
* `search_eq_none_iff` — and fails only if no match begins anywhere.
-/
import Mathlib.Data.List.TakeWhile
import TargetDocs.Pattern

namespace TargetDocs.Pattern

variable {accepts : Char → Bool} {least : Nat} {most : Option Nat} {ps : List Piece} {t : Text}

/-! ### Fixed texts -/

theorem matchFrom_fixed_append (f : Text) (ps : List Piece) (t : Text) :
    matchFrom (.fixed f :: ps) (f ++ t) = (matchFrom ps t).map (f :: ·) := by
  have hprefix : f.isPrefixOf (f ++ t) := List.isPrefixOf_iff_prefix.mpr (List.prefix_append f t)
  rw [matchFrom_cons, Piece.lengths, if_pos hprefix, List.findSome?_singleton, List.take_left',
    List.drop_left']
  · rfl
  · rfl

theorem matchFrom_fixed_of_not_prefix {f : Text} (h : ¬ f <+: t) :
    matchFrom (.fixed f :: ps) t = none := by
  have hprefix : ¬ f.isPrefixOf t := fun hf => h (List.isPrefixOf_iff_prefix.mp hf)
  rw [matchFrom_cons, Piece.lengths, if_neg hprefix, List.findSome?_nil]

/-! ### Runs -/

theorem take_reach (accepts : Char → Bool) (t : Text) :
    t.take (reach accepts none t) = t.takeWhile accepts := by
  have h : t.takeWhile accepts ++ t.dropWhile accepts = t := List.takeWhile_append_dropWhile
  exact (congrArg (List.take _) h.symm).trans (List.take_left' rfl)

theorem drop_reach (accepts : Char → Bool) (t : Text) :
    t.drop (reach accepts none t) = t.dropWhile accepts := by
  have h : t.takeWhile accepts ++ t.dropWhile accepts = t := List.takeWhile_append_dropWhile
  exact (congrArg (List.drop _) h.symm).trans (List.drop_left' rfl)

/-- The longest run is tried first, then the shorter ones. -/
theorem lengths_run (h : least ≤ reach accepts most t) :
    (Piece.run accepts least most).lengths t
      = reach accepts most t :: (List.range' least (reach accepts most t - least)).reverse := by
  rw [Piece.lengths, Nat.sub_add_comm h, List.range'_1_concat, List.reverse_concat,
    Nat.add_sub_cancel' h]

theorem matchFrom_run_of_some {m : List Text} (h : least ≤ reach accepts most t)
    (hm : matchFrom ps (t.drop (reach accepts most t)) = some m) :
    matchFrom (.run accepts least most :: ps) t = some (t.take (reach accepts most t) :: m) := by
  rw [matchFrom_cons, lengths_run h, List.findSome?_cons, hm]
  rfl

/-- There are too few characters for the run. -/
theorem matchFrom_run_of_short (h : reach accepts most t < least) :
    matchFrom (.run accepts least most :: ps) t = none := by
  rw [matchFrom_cons, Piece.lengths, Nat.sub_eq_zero_of_le h]
  rfl

/-- A run without bounds that the pieces after it cannot carry on takes all it can: behind a shorter one
comes a character of its own. -/
theorem matchFrom_run_unbounded (h : ∀ c s, accepts c → matchFrom ps (c :: s) = none) (t : Text) :
    matchFrom (.run accepts 0 none :: ps) t
      = (matchFrom ps (t.dropWhile accepts)).map (t.takeWhile accepts :: ·) := by
  cases hm : matchFrom ps (t.dropWhile accepts) with
  | some m =>
    rw [← drop_reach] at hm
    rw [matchFrom_run_of_some (Nat.zero_le _) hm, take_reach]
    rfl
  | none =>
    have hshorter : ∀ n < (t.takeWhile accepts).length, matchFrom ps (t.drop n) = none := by
      intro n hn
      have hdrop : t.drop n
          = (t.takeWhile accepts)[n] :: ((t.takeWhile accepts).drop (n + 1) ++ t.dropWhile accepts) := by
        rw [← List.cons_append, ← List.drop_eq_getElem_cons hn, ← List.drop_append_of_le_length hn.le,
          List.takeWhile_append_dropWhile]
      rw [hdrop]
      exact h _ _ (List.mem_takeWhile_imp (List.getElem_mem hn))
    rw [matchFrom_cons, lengths_run (Nat.zero_le _), List.findSome?_cons, drop_reach, hm]
    simp only [Option.map_none, List.findSome?_eq_none_iff, List.mem_reverse, List.mem_range'_1,
      Option.map_eq_none_iff]
    rintro n ⟨-, hn⟩
    exact hshorter n (by simpa [reach] using hn)

/-! ### Searching -/

/-- The search passes over a text in which no match begins. -/
theorem search_append_of_none {s t : Text}
    (h : ∀ i < s.length, matchFrom ps ((s ++ t).drop i) = none) : search ps (s ++ t) = search ps t := by
  induction s with
  | nil => rfl
  | cons c s ih =>
    have hfirst : matchFrom ps (c :: (s ++ t)) = none := h 0 (Nat.succ_pos _)
    rw [List.cons_append, search_cons_of_none hfirst]
    exact ih fun i hi => h (i + 1) (Nat.succ_lt_succ hi)

theorem search_eq_none_iff : search ps t = none ↔ ∀ i, matchFrom ps (t.drop i) = none := by
  induction t with
  | nil => simp [search]
  | cons c t ih =>
    rw [search]
    cases hm : matchFrom ps (c :: t) with
    | some m =>
      simp only [reduceCtorEq, false_iff, not_forall]
      exact ⟨0, by simp [hm]⟩
    | none =>
      simp only [ih]
      constructor
      · intro h i
        cases i with
        | zero => exact hm
        | succ i => exact h i
      · intro h i
        exact h (i + 1)

end TargetDocs.Pattern
