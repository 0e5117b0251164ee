/-
Line ends, written in any of the three ways.

* `respells_unifyLineEnds` — a text is a writing of what its line ends are unified to;
* `unifyLineEnds_eq_iff` — the texts unified to one without carriage returns are exactly its writings.
-/
import TargetDocs.Text.Utf8

namespace TargetDocs.Text

/-- The second text is the first with each line feed written as one, as a carriage return, or as a carriage
return and a line feed. A carriage return alone has no line feed behind it. -/
inductive Respells : Text → Text → Prop
  | nil : Respells [] []
  | char {c : Char} {t u : Text} : c ≠ '\n' → Respells t u → Respells (c :: t) (c :: u)
  | lineFeed {t u : Text} : Respells t u → Respells ('\n' :: t) ('\n' :: u)
  | carriageReturn {t u : Text} : u.head? ≠ some '\n' → Respells t u → Respells ('\n' :: t) ('\r' :: u)
  | both {t u : Text} : Respells t u → Respells ('\n' :: t) ('\r' :: '\n' :: u)

theorem unifyLineEnds_cons {c : Char} {t : Text} (h : c = '\r' → t.head? ≠ some '\n') :
    unifyLineEnds (c :: t) = (if c = '\r' then '\n' else c) :: unifyLineEnds t := by
  rw [unifyLineEnds]
  rintro u rfl rfl
  exact h rfl rfl

theorem Respells.unifyLineEnds_eq {t u : Text} (h : Respells t u) (hreturn : '\r' ∉ t) :
    unifyLineEnds u = t := by
  induction h with
  | nil => rfl
  | char _ _ ih =>
    rw [List.mem_cons, not_or] at hreturn
    rw [unifyLineEnds_cons fun hc => absurd hc.symm hreturn.1, if_neg (Ne.symm hreturn.1), ih hreturn.2]
  | lineFeed _ ih =>
    rw [unifyLineEnds_cons fun hc => absurd hc (by decide), if_neg (by decide),
      ih (List.not_mem_of_not_mem_cons hreturn)]
  | carriageReturn hhead _ ih =>
    rw [unifyLineEnds_cons fun _ => hhead, if_pos rfl, ih (List.not_mem_of_not_mem_cons hreturn)]
  | both _ ih => rw [unifyLineEnds, ih (List.not_mem_of_not_mem_cons hreturn)]

/-- A text is a writing of what its line ends are unified to. -/
theorem respells_unifyLineEnds (u : Text) : Respells (unifyLineEnds u) u := by
  fun_induction unifyLineEnds u with
  | case1 => exact .nil
  | case2 u ih => exact .both ih
  | case3 c u hnot ih =>
    split
    · next hc =>
      subst hc
      refine .carriageReturn (fun hhead => ?_) ih
      obtain ⟨more, rfl⟩ := List.head?_eq_some_iff.mp hhead
      exact hnot more rfl rfl
    · by_cases hfeed : c = '\n'
      · subst hfeed
        exact .lineFeed ih
      · exact .char hfeed ih

/-- The texts unified to one without carriage returns are its writings. -/
theorem unifyLineEnds_eq_iff {t u : Text} (hreturn : '\r' ∉ t) : unifyLineEnds u = t ↔ Respells t u := by
  constructor
  · rintro rfl
    exact respells_unifyLineEnds u
  · exact fun h => h.unifyLineEnds_eq hreturn

end TargetDocs.Text
