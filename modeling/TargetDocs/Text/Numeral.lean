/-
Reading and writing whole numbers.

A numeral is an optional sign and decimal digits of any script, with single underscores allowed
between digits and white space allowed around the whole. It has at most `maxDigits` digits, leading
zeros counted and underscores not.

Main statements:
* `readDigits_lt` — the digits read are all below ten.
-/
import TargetDocs.Text.Blank
import TargetDocs.Text.DecimalDigit

namespace TargetDocs.Text

/-- The longest numeral that is read or written as a number, in digits. -/
def maxDigits : Nat := 4300

/-- The values of decimal digits with at most one underscore between every two of them; `none` if
the text is anything else, the empty text included. -/
def readDigits : Text → Option (List Nat)
  | [] => none
  | [c] => (digitValue? c).map ([·])
  | c :: '_' :: t => do return (← digitValue? c) :: (← readDigits t)
  | c :: d :: t => do return (← digitValue? c) :: (← readDigits (d :: t))

/-- The number that decimal digits stand for, the leading digit first. -/
def ofDigits (ds : List Nat) : Nat := ds.foldl (fun n d => 10 * n + d) 0

/-- The sign of a numeral, true for a minus, and the text after it. -/
def readSign : Text → Bool × Text
  | '-' :: t => (true, t)
  | '+' :: t => (false, t)
  | t => (false, t)

/-- The number that a text stands for, `none` if the text is no numeral. -/
def readInt (t : Text) : Option Int :=
  let (negative, body) := readSign (trim isMargin t)
  match readDigits body with
  | none => none
  | some ds =>
    if maxDigits < ds.length then none
    else if negative then some (-(ofDigits ds : Int))
    else some (ofDigits ds)

/-- The decimal digits of a natural number. -/
def decimal (n : Nat) : Text := Nat.toDigits 10 n

/-- The decimal writing of a whole number. -/
def decimalInt (n : Int) : Text :=
  if n < 0 then '-' :: decimal n.natAbs else decimal n.natAbs

/-- The digits that are read are digits. -/
theorem readDigits_lt {t : Text} {ds : List Nat} (h : readDigits t = some ds) :
    ∀ d ∈ ds, d < 10 := by
  fun_induction readDigits t generalizing ds with
  | case1 => simp at h
  | case2 c =>
    obtain ⟨n, hn, rfl⟩ := Option.map_eq_some_iff.1 h
    simpa using digitValue?_lt hn
  | case3 c t ih =>
    obtain ⟨n, hn, h⟩ := Option.bind_eq_some_iff.1 h
    obtain ⟨es, he, h⟩ := Option.bind_eq_some_iff.1 h
    obtain rfl := Option.some.inj h
    simpa using ⟨digitValue?_lt hn, ih he⟩
  | case4 c d t _ ih =>
    obtain ⟨n, hn, h⟩ := Option.bind_eq_some_iff.1 h
    obtain ⟨es, he, h⟩ := Option.bind_eq_some_iff.1 h
    obtain rfl := Option.some.inj h
    simpa using ⟨digitValue?_lt hn, ih he⟩

example : readInt " +1_000 ".toList = some 1000 := by decide

example : readInt "1__0".toList = none := by decide

end TargetDocs.Text
