/-
How far a text reaches on a line, in terminal cells.

Most texts take the cells of their characters. Two characters change that: a joiner merges the
character after it with the one before, so that neither it nor that character takes a cell, and the
emoji selector widens the narrow symbol before it to the two cells of its picture. So an extent
grows character by character and remembers what these two depend on.

* `pushAll_append` — a text is measured part by part, from where the part before ended;
* `push_of_plain` — a character that is neither of these two takes its own cells;
* `cells_pushAll_spaces` — so spaces take one each.
-/
import TargetDocs.Text.CellWidth

namespace TargetDocs.Text

/-- The zero width joiner. -/
def joiner : Char := '\u200d'

/-- The variation selector that asks for a symbol in its form as an emoji. -/
def emojiSelector : Char := '\ufe0f'

/-- The narrow symbols with a form as an emoji, in increasing ranges. -/
def emojiFormRanges : List CodeRange :=
  [(0x0023, 0x0023), (0x002A, 0x002A), (0x0030, 0x0039), (0x00A9, 0x00A9), (0x00AE, 0x00AE),
    (0x203C, 0x203C), (0x2049, 0x2049), (0x2122, 0x2122), (0x2139, 0x2139), (0x2194, 0x2199),
    (0x21A9, 0x21AA), (0x2328, 0x2328), (0x23CF, 0x23CF), (0x23ED, 0x23EF), (0x23F1, 0x23F2),
    (0x23F8, 0x23FA), (0x24C2, 0x24C2), (0x25AA, 0x25AB), (0x25B6, 0x25B6), (0x25C0, 0x25C0),
    (0x25FB, 0x25FC), (0x2600, 0x2604), (0x260E, 0x260E), (0x2611, 0x2611), (0x2618, 0x2618),
    (0x261D, 0x261D), (0x2620, 0x2620), (0x2622, 0x2623), (0x2626, 0x2626), (0x262A, 0x262A),
    (0x262E, 0x262F), (0x2638, 0x263A), (0x2640, 0x2640), (0x2642, 0x2642), (0x265F, 0x2660),
    (0x2663, 0x2663), (0x2665, 0x2666), (0x2668, 0x2668), (0x267B, 0x267B), (0x267E, 0x267E),
    (0x2692, 0x2692), (0x2694, 0x2697), (0x2699, 0x2699), (0x269B, 0x269C), (0x26A0, 0x26A0),
    (0x26A7, 0x26A7), (0x26B0, 0x26B1), (0x26C8, 0x26C8), (0x26CF, 0x26CF), (0x26D1, 0x26D1),
    (0x26D3, 0x26D3), (0x26E9, 0x26E9), (0x26F0, 0x26F1), (0x26F4, 0x26F4), (0x26F7, 0x26F9),
    (0x2702, 0x2702), (0x2708, 0x2709), (0x270C, 0x270D), (0x270F, 0x270F), (0x2712, 0x2712),
    (0x2714, 0x2714), (0x2716, 0x2716), (0x271D, 0x271D), (0x2721, 0x2721), (0x2733, 0x2734),
    (0x2744, 0x2744), (0x2747, 0x2747), (0x2763, 0x2764), (0x27A1, 0x27A1), (0x2934, 0x2935),
    (0x2B05, 0x2B07), (0x1F170, 0x1F171), (0x1F17E, 0x1F17F), (0x1F321, 0x1F321),
    (0x1F324, 0x1F32C), (0x1F336, 0x1F336), (0x1F37D, 0x1F37D), (0x1F396, 0x1F397),
    (0x1F399, 0x1F39B), (0x1F39E, 0x1F39F), (0x1F3CB, 0x1F3CE), (0x1F3D4, 0x1F3DF),
    (0x1F3F3, 0x1F3F3), (0x1F3F5, 0x1F3F5), (0x1F3F7, 0x1F3F7), (0x1F43F, 0x1F43F),
    (0x1F441, 0x1F441), (0x1F4FD, 0x1F4FD), (0x1F549, 0x1F54A), (0x1F56F, 0x1F570),
    (0x1F573, 0x1F579), (0x1F587, 0x1F587), (0x1F58A, 0x1F58D), (0x1F590, 0x1F590),
    (0x1F5A5, 0x1F5A5), (0x1F5A8, 0x1F5A8), (0x1F5B1, 0x1F5B2), (0x1F5BC, 0x1F5BC),
    (0x1F5C2, 0x1F5C4), (0x1F5D1, 0x1F5D3), (0x1F5DC, 0x1F5DE), (0x1F5E1, 0x1F5E1),
    (0x1F5E3, 0x1F5E3), (0x1F5E8, 0x1F5E8), (0x1F5EF, 0x1F5EF), (0x1F5F3, 0x1F5F3),
    (0x1F5FA, 0x1F5FA), (0x1F6CB, 0x1F6CB), (0x1F6CD, 0x1F6CF), (0x1F6E0, 0x1F6E5),
    (0x1F6E9, 0x1F6E9), (0x1F6F0, 0x1F6F0), (0x1F6F3, 0x1F6F3)]

/-- What is known of a text that has been measured up to some place: the cells so far, whether an
emoji selector would widen the last character that took cells, and whether a joiner comes right
before the place. -/
structure Extent where
  cells : Nat := 0
  widens : Bool := false
  joined : Bool := false
  deriving DecidableEq, Repr

namespace Extent

/-- The extent after one more character. A symbol is widened once. -/
def push (e : Extent) (c : Char) : Extent :=
  if e.joined then { e with joined := false }
  else if c = joiner then { e with joined := true }
  else if c = emojiSelector then { e with cells := e.cells + e.widens.toNat, widens := false }
  else if cellWidth c = 0 then e
  else { e with cells := e.cells + cellWidth c, widens := inRanges emojiFormRanges c }

/-- The extent after more text. -/
def pushAll (e : Extent) (t : Text) : Extent := t.foldl push e

@[simp] theorem pushAll_nil (e : Extent) : e.pushAll [] = e := rfl

@[simp] theorem pushAll_cons (e : Extent) (c : Char) (t : Text) :
    e.pushAll (c :: t) = (e.push c).pushAll t := rfl

/-- A text is measured part by part. -/
theorem pushAll_append (e : Extent) (s t : Text) :
    e.pushAll (s ++ t) = (e.pushAll s).pushAll t := List.foldl_append

/-- Without a joiner before it a character that is neither joiner nor selector takes its own
cells. -/
theorem push_of_plain {e : Extent} {c : Char} (he : e.joined = false) (hj : c ≠ joiner)
    (hs : c ≠ emojiSelector) :
    (e.push c).cells = e.cells + cellWidth c ∧ (e.push c).joined = false := by
  unfold push
  rw [he]
  simp only [Bool.false_eq_true, if_false, if_neg hj, if_neg hs]
  split
  · next h => simp [h, he]
  · exact ⟨rfl, rfl⟩

/-- No joiner acts beyond a space. -/
@[simp] theorem joined_push_space (e : Extent) : (e.push ' ').joined = false := by
  cases he : e.joined with
  | true => simp [push, he]
  | false => exact (push_of_plain he (by decide) (by decide)).2

/-- Spaces take one cell each, unless a joiner comes before them. -/
theorem cells_pushAll_spaces {e : Extent} (he : e.joined = false) (n : Nat) :
    (e.pushAll (List.replicate n ' ')).cells = e.cells + n := by
  induction n generalizing e with
  | zero => rfl
  | succ n ih =>
    have hnext := push_of_plain (c := ' ') he (by decide) (by decide)
    rw [List.replicate_succ, pushAll_cons, ih hnext.2, hnext.1,
      cellWidth_of_ascii (by decide) (by decide)]
    omega

end Extent

/-- The number of terminal cells that a text takes. -/
def textWidth (t : Text) : Nat := (Extent.pushAll {} t).cells

/-- A heart is widened once, a letter never, and a joiner takes the letter after it. -/
example : textWidth "\u2764\ufe0f\ufe0f".toList = 2 ∧ textWidth "a\ufe0f".toList = 1
    ∧ textWidth "a\u200dbc".toList = 2 := by decide +kernel

end TargetDocs.Text
