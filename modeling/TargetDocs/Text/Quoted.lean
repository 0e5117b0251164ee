/-
Texts in quotes, as messages show them.

A quoted text stands between single quotes, or between double quotes if it holds a single quote and
no double one. Inside, the backslash and the enclosing quote are escaped, so are the tab, the line
feed and the carriage return, and what else is not printable is written by its code point in two,
four or eight hexadecimal digits.

* `quoteMark_eq` — the mark is one of the two quotes.
-/
import TargetDocs.Text.Printable

namespace TargetDocs.Text

/-- A hexadecimal digit, in small letters. -/
def hexDigit (n : Nat) : Char :=
  if n < 10 then Char.ofNat (0x30 + n) else Char.ofNat (0x61 + n - 10)

/-- The last `width` hexadecimal digits of a number. -/
def hex : Nat → Nat → Text
  | 0, _ => []
  | width + 1, n => hex width (n / 16) ++ [hexDigit (n % 16)]

@[simp] theorem length_hex (width n : Nat) : (hex width n).length = width := by
  induction width generalizing n with
  | zero => rfl
  | succ w ih => simp [hex, ih]

/-- The quote to put around a text. -/
def quoteMark (t : Text) : Char :=
  if '\'' ∈ t ∧ '"' ∉ t then '"' else '\''

/-- A character as it stands inside the given quotes. -/
def escapeChar (mark c : Char) : Text :=
  if c = mark ∨ c = '\\' then ['\\', c]
  else if c = '\t' then ['\\', 't']
  else if c = '\n' then ['\\', 'n']
  else if c = '\r' then ['\\', 'r']
  else if isPrintable c then [c]
  else if c.toNat < 0x100 then '\\' :: 'x' :: hex 2 c.toNat
  else if c.toNat < 0x10000 then '\\' :: 'u' :: hex 4 c.toNat
  else '\\' :: 'U' :: hex 8 c.toNat

/-- The text between quotes. -/
def quoted (t : Text) : Text :=
  quoteMark t :: t.flatMap (escapeChar (quoteMark t)) ++ [quoteMark t]

/-- The mark is a single or a double quote. -/
theorem quoteMark_eq (t : Text) : quoteMark t = '\'' ∨ quoteMark t = '"' := by
  unfold quoteMark
  split
  · exact Or.inr rfl
  · exact Or.inl rfl

example : quoted "it's\n".toList = "\"it's\\n\"".toList := by decide

example : quoted ['\x07'] = "'\\x07'".toList := by decide

end TargetDocs.Text
