/-
White space, in the two extents that the rules here need: the blanks around a Makefile assignment,
which are those of Unicode and the four ASCII separators, and the blanks around a number, which leave
those separators out.

* `isBlank_of_isMargin` — the second set lies in the first;
* `isBlank_of_visible` — no visible character of ASCII is in either.
-/
import TargetDocs.Text.CodeRange

namespace TargetDocs.Text

/-- White space beyond ASCII, in increasing ranges. -/
def wideBlankRanges : List CodeRange :=
  [(0x0085, 0x0085), (0x00A0, 0x00A0), (0x1680, 0x1680), (0x2000, 0x200A), (0x2028, 0x2029),
    (0x202F, 0x202F), (0x205F, 0x205F), (0x3000, 0x3000)]

/-- White space around a number: the space, the controls from tab to carriage return, and white
space beyond ASCII. -/
def isMargin (c : Char) : Bool :=
  c = ' ' || (0x09 ≤ c.toNat && c.toNat ≤ 0x0D) || inRanges wideBlankRanges c

/-- White space: that around numbers and the information separators U+001C to U+001F. -/
def isBlank (c : Char) : Bool :=
  isMargin c || (0x1C ≤ c.toNat && c.toNat ≤ 0x1F)

theorem isBlank_of_isMargin {c : Char} (h : isMargin c) : isBlank c := by
  simp [isBlank, h]

/-- What core counts as white space is blank. -/
theorem isBlank_of_isWhitespace {c : Char} (h : c.isWhitespace) : isBlank c := by
  simp only [Char.isWhitespace, Bool.or_eq_true, decide_eq_true_eq] at h
  rcases h with ((rfl | rfl) | rfl) | rfl <;> decide

/-- A character of ASCII behind the space is not blank. -/
theorem isBlank_of_visible {c : Char} (hlower : 0x21 ≤ c.toNat) (hupper : c.toNat ≤ 0x7E) :
    isBlank c = false := by
  have hspace : c ≠ ' ' := by
    rintro rfl
    exact absurd hlower (by decide)
  have hwide : inRanges wideBlankRanges c = false := by
    rw [← Bool.not_eq_true, inRanges_iff]
    rintro ⟨r, hr, hfirst, -⟩
    have hall : ∀ r ∈ wideBlankRanges, 0x7F ≤ r.1 := by decide
    have := hall r hr
    omega
  simp only [isBlank, isMargin, hwide, hspace, decide_false, Bool.false_or, Bool.or_false,
    Bool.or_eq_false_iff, Bool.and_eq_false_iff, decide_eq_false_iff_not]
  omega

/-- A text without the given characters at its two ends. -/
def trim (p : Char → Bool) (t : Text) : Text :=
  ((t.dropWhile p).reverse.dropWhile p).reverse

end TargetDocs.Text
