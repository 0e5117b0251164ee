/-
Texts, cut at a character and joined again.

A text is a list of characters. Cutting it at a mark that occurs `n` times gives `n + 1` pieces, any
of which may be empty. Lines are the pieces between line feeds: the line feed alone ends a line, and
the last line may be empty.

Main statements:
* `join_cut`, `cut_join` — cutting and joining undo each other;
* `not_mem_of_mem_cut` — no piece holds the mark;
* `cut_append` — the pieces of two texts with the mark between them;
* `head?_lines` — the first line of a text.
-/

namespace TargetDocs

/-- A text, character by character. -/
abbrev Text := List Char

namespace Text

/-- The pieces of a text between the places where the mark stands. -/
def cut (mark : Char) : Text → List Text
  | [] => [[]]
  | c :: t =>
    if c = mark then [] :: cut mark t
    else
      match cut mark t with
      | [] => [[c]]
      | l :: ls => (c :: l) :: ls

/-- Pieces with the mark between every two of them. -/
def join (mark : Char) : List Text → Text
  | [] => []
  | [l] => l
  | l :: ls => l ++ mark :: join mark ls

/-- The text with as many spaces after it as it takes to reach the width in characters. -/
def padRight (width : Int) (t : Text) : Text :=
  t ++ List.replicate (width.toNat - t.length) ' '

section Cut

variable {mark : Char}

theorem cut_ne_nil (mark : Char) (t : Text) : cut mark t ≠ [] := by
  cases t with
  | nil => simp [cut]
  | cons c t =>
    simp only [cut]
    split
    · simp
    · split <;> simp

theorem cut_mark_cons (t : Text) : cut mark (mark :: t) = [] :: cut mark t := by
  simp [cut]

theorem cut_cons {c : Char} (hc : c ≠ mark) {t l : Text} {ls : List Text}
    (h : cut mark t = l :: ls) : cut mark (c :: t) = (c :: l) :: ls := by
  simp [cut, hc, h]

@[simp] theorem join_cons_cons (k l : Text) (ls : List Text) :
    join mark (k :: l :: ls) = k ++ mark :: join mark (l :: ls) := rfl

/-- Joining the pieces of a text gives the text back. -/
theorem join_cut (t : Text) : join mark (cut mark t) = t := by
  induction t with
  | nil => rfl
  | cons c t ih =>
    obtain ⟨l, ls, h⟩ := List.exists_cons_of_ne_nil (cut_ne_nil mark t)
    rw [h] at ih
    by_cases hc : c = mark
    · subst hc
      rw [cut_mark_cons, h, join_cons_cons, ih]
      rfl
    · rw [cut_cons hc h]
      cases ls with
      | nil => exact congrArg (c :: ·) ih
      | cons k ks => exact congrArg (c :: ·) ih

/-- No piece holds the mark. -/
theorem not_mem_of_mem_cut {t l : Text} (h : l ∈ cut mark t) : mark ∉ l := by
  induction t generalizing l with
  | nil =>
    obtain rfl := List.mem_singleton.1 h
    exact List.not_mem_nil
  | cons c t ih =>
    obtain ⟨k, ks, ht⟩ := List.exists_cons_of_ne_nil (cut_ne_nil mark t)
    by_cases hc : c = mark
    · subst hc
      rw [cut_mark_cons] at h
      rcases List.mem_cons.1 h with rfl | h
      · exact List.not_mem_nil
      · exact ih h
    · rw [cut_cons hc ht] at h
      rcases List.mem_cons.1 h with rfl | h
      · have hk : mark ∉ k := ih (by rw [ht]; exact List.mem_cons_self)
        intro hm
        rcases List.mem_cons.1 hm with e | hm
        · exact hc e.symm
        · exact hk hm
      · exact ih (by rw [ht]; exact List.mem_cons_of_mem _ h)

/-- Apart from the mark, the pieces hold the characters of the text. -/
theorem mem_cut_iff {c : Char} (hc : c ≠ mark) (t : Text) : (∃ l ∈ cut mark t, c ∈ l) ↔ c ∈ t := by
  induction t with
  | nil => simp [cut]
  | cons d t ih =>
    by_cases hd : d = mark
    · subst hd
      simpa [cut_mark_cons, hc] using ih
    · obtain ⟨l, ls, ht⟩ := List.exists_cons_of_ne_nil (cut_ne_nil mark t)
      rw [ht] at ih
      rw [cut_cons hd ht, List.mem_cons, ← ih]
      simp [or_assoc]

/-- A text without the mark is its own only piece. -/
theorem cut_of_not_mem {t : Text} (h : mark ∉ t) : cut mark t = [t] := by
  induction t with
  | nil => rfl
  | cons c t ih =>
    rw [List.mem_cons, not_or] at h
    exact cut_cons (Ne.symm h.1) (ih h.2)

/-- The pieces of two texts with the mark between them are those of the one, then those of the
other. -/
theorem cut_append (s t : Text) : cut mark (s ++ mark :: t) = cut mark s ++ cut mark t := by
  induction s with
  | nil => exact cut_mark_cons t
  | cons c s ih =>
    by_cases hc : c = mark
    · subst hc
      rw [List.cons_append, cut_mark_cons, ih, cut_mark_cons]
      rfl
    · obtain ⟨l, ls, hs⟩ := List.exists_cons_of_ne_nil (cut_ne_nil mark s)
      rw [cut_cons hc hs, List.cons_append, cut_cons hc (by rw [ih, hs]; rfl)]
      rfl

/-- Cutting joined pieces gives them back, if there is one and none holds the mark. -/
theorem cut_join {ls : List Text} (hne : ls ≠ []) (h : ∀ l ∈ ls, mark ∉ l) :
    cut mark (join mark ls) = ls := by
  induction ls with
  | nil => exact absurd rfl hne
  | cons l ls ih =>
    have hl : mark ∉ l := h l List.mem_cons_self
    cases ls with
    | nil => exact cut_of_not_mem hl
    | cons k ks =>
      rw [join_cons_cons, cut_append, cut_of_not_mem hl,
        ih (by simp) fun m hm => h m (List.mem_cons_of_mem _ hm)]
      rfl

/-- The text before the first mark heads the pieces. -/
theorem head?_cut (t : Text) : (cut mark t).head? = some (t.takeWhile (· ≠ mark)) := by
  induction t with
  | nil => rfl
  | cons c t ih =>
    by_cases hc : c = mark
    · subst hc
      simp [cut_mark_cons]
    · obtain ⟨l, ls, ht⟩ := List.exists_cons_of_ne_nil (cut_ne_nil mark t)
      rw [ht, List.head?_cons, Option.some.injEq] at ih
      rw [cut_cons hc ht, List.head?_cons, ih]
      simp [hc]

end Cut

/-- The lines of a text, without their line feeds. -/
def lines (t : Text) : List Text := cut '\n' t

/-- Lines with a line feed between every two of them. -/
def joinLines (ls : List Text) : Text := join '\n' ls

/-- The line that a text starts with. -/
def firstLine (t : Text) : Text := t.takeWhile (· ≠ '\n')

/-- The first line of a text heads its lines. -/
theorem head?_lines (t : Text) : (lines t).head? = some (firstLine t) := head?_cut t

/-- The first line holds no line feed. -/
theorem lineFeed_not_mem_firstLine (t : Text) : '\n' ∉ firstLine t :=
  not_mem_of_mem_cut (List.mem_of_mem_head? (head?_lines t))

theorem firstLine_of_not_mem {t : Text} (h : '\n' ∉ t) : firstLine t = t := by
  have := head?_lines t
  rw [lines, cut_of_not_mem h] at this
  exact (Option.some.inj this).symm

end Text

end TargetDocs
