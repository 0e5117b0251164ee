/-
Decimal digits of every script. Unicode keeps the ten digits of a script next to each other in
increasing order, so a list of the zeros says all: the value of a digit is its distance from the zero
at or before it.

* `digitValue?_lt` — a digit's value is below ten;
* `digitValue?_ascii` — the digits from 0 to 9 have their usual values.

The list holds the zeros among the code points of category Nd in Unicode 14.
-/
import TargetDocs.Text.Basic

namespace TargetDocs.Text

/-- The code points of the digits with value zero, in increasing order. -/
def digitZeros : List Nat :=
  [0x0030, 0x0660, 0x06F0, 0x07C0, 0x0966, 0x09E6, 0x0A66, 0x0AE6, 0x0B66, 0x0BE6, 0x0C66, 0x0CE6,
    0x0D66, 0x0DE6, 0x0E50, 0x0ED0, 0x0F20, 0x1040, 0x1090, 0x17E0, 0x1810, 0x1946, 0x19D0, 0x1A80,
    0x1A90, 0x1B50, 0x1BB0, 0x1C40, 0x1C50, 0xA620, 0xA8D0, 0xA900, 0xA9D0, 0xA9F0, 0xAA50, 0xABF0,
    0xFF10, 0x104A0, 0x10D30, 0x11066, 0x110F0, 0x11136, 0x111D0, 0x112F0, 0x11450, 0x114D0,
    0x11650, 0x116C0, 0x11730, 0x118E0, 0x11950, 0x11C50, 0x11D50, 0x11DA0, 0x16A60, 0x16AC0,
    0x16B50, 0x1D7CE, 0x1D7D8, 0x1D7E2, 0x1D7EC, 0x1D7F6, 0x1E140, 0x1E2F0, 0x1E950, 0x1FBF0]

/-- The value of a decimal digit, `none` for any other character. -/
def digitValue? (c : Char) : Option Nat :=
  (digitZeros.find? fun z => z ≤ c.toNat && c.toNat < z + 10).map (c.toNat - ·)

/-- A character that is a decimal digit in some script. -/
def isDecimalDigit (c : Char) : Bool := (digitValue? c).isSome

/-- The value of a digit is below ten. -/
theorem digitValue?_lt {c : Char} {n : Nat} (h : digitValue? c = some n) : n < 10 := by
  obtain ⟨z, hz, rfl⟩ := Option.map_eq_some_iff.1 h
  have := List.find?_some hz
  simp only [Bool.and_eq_true, decide_eq_true_eq] at this
  omega

/-- The ten ASCII digits. -/
theorem digitValue?_ascii {n : Nat} (h : n < 10) : digitValue? (Char.ofNat (0x30 + n)) = some n := by
  have all : ∀ m ∈ List.range 10, digitValue? (Char.ofNat (0x30 + m)) = some m := by decide
  exact all n (List.mem_range.2 h)

end TargetDocs.Text
