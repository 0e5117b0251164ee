/-
Lines and the text around them.

* `firstLine_append` — a line ends where a line feed or nothing comes;
* `append_mark_inj` — a text is parted at its first mark in one way;
* `join_around` — joined lines, seen from one of them;
* `lines_around` — a text without line feeds that ends where a line does lies in one line, whatever the
  lines behind it are.
-/
import TargetDocs.Text.Basic

namespace TargetDocs.Text

/-- The text begins where a line ends. -/
def EndsLine (t : Text) : Prop := t = [] ∨ t.head? = some '\n'

theorem takeWhile_of_endsLine {t : Text} (h : EndsLine t) : t.takeWhile (· ≠ '\n') = [] := by
  rcases h with rfl | h
  · rfl
  · obtain ⟨more, rfl⟩ := List.head?_eq_some_iff.mp h
    exact List.takeWhile_cons_of_neg (by simp)

theorem firstLine_append {l after : Text} (hl : '\n' ∉ l) (h : EndsLine after) :
    firstLine (l ++ after) = l := by
  have hchars : ∀ c ∈ l, decide (c ≠ '\n') := fun c hc => decide_eq_true fun h => hl (h ▸ hc)
  rw [firstLine, List.takeWhile_append_of_pos hchars, takeWhile_of_endsLine h, List.append_nil]

/-- A text is its first line and a rest that begins where that line ends. -/
theorem exists_firstLine_append (t : Text) : ∃ after, t = firstLine t ++ after ∧ EndsLine after := by
  refine ⟨t.dropWhile (· ≠ '\n'), List.takeWhile_append_dropWhile.symm, ?_⟩
  have hdrop := List.head?_dropWhile_not (fun c => decide (c ≠ '\n')) t
  cases hrest : t.dropWhile (· ≠ '\n') with
  | nil => exact .inl rfl
  | cons c more =>
    rw [hrest] at hdrop
    exact .inr (by simpa using hdrop)

theorem endsLine_flatMap (ls : List Text) : EndsLine (ls.flatMap ('\n' :: ·)) := by
  cases ls with
  | nil => exact .inl rfl
  | cons l ls => exact .inr rfl

/-- The first mark of a text parts it in one way only. -/
theorem append_mark_inj {mark : Char} {s t s' t' : Text} (hs : mark ∉ s) (hs' : mark ∉ s')
    (h : s ++ mark :: t = s' ++ mark :: t') : s = s' ∧ t = t' := by
  have hcut : s :: cut mark t = s' :: cut mark t' := by
    have h := congrArg (cut mark) h
    rwa [cut_append, cut_append, cut_of_not_mem hs, cut_of_not_mem hs'] at h
  obtain rfl := (List.cons.inj hcut).1
  exact ⟨rfl, (List.cons.inj (List.append_cancel_left h)).2⟩

/-- The other pieces stand around a piece with their marks. -/
theorem join_around (mark : Char) (above : List Text) (l : Text) (below : List Text) :
    join mark (above ++ l :: below)
      = above.flatMap (· ++ [mark]) ++ l ++ below.flatMap (mark :: ·) := by
  induction above with
  | nil =>
    induction below generalizing l with
    | nil => simp [join]
    | cons k below ih =>
      rw [List.nil_append, join_cons_cons, ← List.nil_append (k :: below), ih]
      simp
  | cons k above ih =>
    obtain ⟨x, xs, hxs⟩ := List.exists_cons_of_ne_nil (show above ++ l :: below ≠ [] by simp)
    rw [List.cons_append, hxs, join_cons_cons, ← hxs, ih]
    simp

theorem join_cons (mark : Char) (l : Text) (ls : List Text) :
    join mark (l :: ls) = l ++ ls.flatMap (mark :: ·) :=
  join_around mark [] l ls

theorem join_append (mark : Char) {xs ys : List Text} (hxs : xs ≠ []) (hys : ys ≠ []) :
    join mark (xs ++ ys) = join mark xs ++ mark :: join mark ys := by
  obtain ⟨x, xs, rfl⟩ := List.exists_cons_of_ne_nil hxs
  obtain ⟨y, ys, rfl⟩ := List.exists_cons_of_ne_nil hys
  rw [List.cons_append, join_cons, join_cons, join_cons, List.flatMap_append, List.flatMap_cons]
  simp

theorem EndsLine.exists_lines {after : Text} (h : EndsLine after) :
    ∃ below : List Text, after = below.flatMap ('\n' :: ·) ∧ ∀ l ∈ below, '\n' ∉ l := by
  rcases h with rfl | h
  · exact ⟨[], rfl, by simp⟩
  · obtain ⟨more, rfl⟩ := List.head?_eq_some_iff.mp h
    refine ⟨lines more, ?_, fun l hl => not_mem_of_mem_cut hl⟩
    obtain ⟨l, ls, hls⟩ := List.exists_cons_of_ne_nil (cut_ne_nil '\n' more)
    rw [lines, hls, List.flatMap_cons, List.cons_append, ← join_cons, ← hls, join_cut]

/-- Text without a line feed that reaches to the end of a line lies in that line, and the lines behind it can
be any others. -/
theorem lines_around {w after : Text} (s : Text) (hw : '\n' ∉ w) (h : EndsLine after) :
    ∃ above start below, lines (s ++ w ++ after) = above ++ (start ++ w) :: below
      ∧ ∀ below', joinLines (above ++ (start ++ w) :: below') = s ++ w ++ below'.flatMap ('\n' :: ·) := by
  obtain ⟨above, start, hs⟩ := List.eq_nil_or_concat (lines s) |>.resolve_left (cut_ne_nil '\n' s)
  obtain ⟨below, rfl, hbelow⟩ := h.exists_lines
  have hlines : ∀ l ∈ above ++ [start], '\n' ∉ l := by
    rw [← List.concat_eq_append, ← hs]
    exact fun l hl => not_mem_of_mem_cut hl
  have hjoin : s = above.flatMap (· ++ ['\n']) ++ start := by
    have hcut : joinLines (lines s) = s := join_cut s
    rw [← hcut, hs, List.concat_eq_append, joinLines, join_around]
    simp
  have hany : ∀ below',
      joinLines (above ++ (start ++ w) :: below') = s ++ w ++ below'.flatMap ('\n' :: ·) := by
    intro below'
    rw [joinLines, join_around, hjoin]
    simp
  refine ⟨above, start, below, ?_, hany⟩
  rw [← hany below, lines, joinLines, cut_join (by simp)]
  intro l hl
  rcases List.mem_append.mp hl with hl | hl
  · exact hlines l (List.mem_append_left _ hl)
  · rcases List.mem_cons.mp hl with rfl | hl
    · have hstart := hlines start (by simp)
      simp [hstart, hw]
    · exact hbelow l hl

end TargetDocs.Text
