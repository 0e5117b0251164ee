/-
Quoted texts can be read back, whatever stands behind them.

* `ofHex_hex` — a number is read from its hexadecimal digits;
* `unescape_escapeChar` — a character is read from the way it stands between quotes (`unescape`);
* `quoted_append_inj` — so a quoted text ends in one place only, and says what it quotes.
-/
import Mathlib.Algebra.Group.Nat.Defs
import TargetDocs.Text.Quoted

namespace TargetDocs.Text

/-! ### Hexadecimal digits -/

/-- The value of a hexadecimal digit in small letters. -/
def hexValue (c : Char) : Nat := if c.toNat < 0x61 then c.toNat - 0x30 else c.toNat - 0x57

/-- The number that hexadecimal digits write. -/
def ofHex (t : Text) : Nat := t.foldl (fun n c => 16 * n + hexValue c) 0

theorem hexValue_hexDigit {d : Nat} (h : d < 16) : hexValue (hexDigit d) = d := by
  have all : ∀ d < 16, hexValue (hexDigit d) = d := by decide
  exact all d h

theorem ofHex_hex {width n : Nat} (h : n < 16 ^ width) : ofHex (hex width n) = n := by
  induction width generalizing n with
  | zero =>
    obtain rfl : n = 0 := by simpa using h
    rfl
  | succ width ih =>
    have hn : n / 16 < 16 ^ width := Nat.div_lt_of_lt_mul (by rwa [Nat.pow_succ, Nat.mul_comm] at h)
    have hlast : hexValue (hexDigit (n % 16)) = n % 16 := hexValue_hexDigit (Nat.mod_lt n (by decide))
    rw [hex, ofHex, List.foldl_append]
    show 16 * ofHex (hex width (n / 16)) + hexValue (hexDigit (n % 16)) = n
    rw [ih hn, hlast, Nat.div_add_mod]

/-! ### Characters -/

/-- The character that stands at the start of a text between quotes, and what is left. -/
def unescape : Text → Option (Char × Text)
  | '\\' :: 't' :: x => some ('\t', x)
  | '\\' :: 'n' :: x => some ('\n', x)
  | '\\' :: 'r' :: x => some ('\r', x)
  | '\\' :: 'x' :: x => some (Char.ofNat (ofHex (x.take 2)), x.drop 2)
  | '\\' :: 'u' :: x => some (Char.ofNat (ofHex (x.take 4)), x.drop 4)
  | '\\' :: 'U' :: x => some (Char.ofNat (ofHex (x.take 8)), x.drop 8)
  | '\\' :: c :: x => some (c, x)
  | c :: x => some (c, x)
  | [] => none

variable {mark c c' : Char} {s s' x x' : Text}

theorem unescape_of_ne (h : c ≠ '\\') (x : Text) : unescape (c :: x) = some (c, x) := by
  simp [unescape, h]

theorem hex_read_back (width : Nat) (h : c.toNat < 16 ^ width) (x : Text) :
    (Char.ofNat (ofHex ((hex width c.toNat ++ x).take width)), (hex width c.toNat ++ x).drop width)
      = (c, x) := by
  have htake : (hex width c.toNat ++ x).take width = hex width c.toNat :=
    List.take_left' (length_hex width c.toNat)
  have hdrop : (hex width c.toNat ++ x).drop width = x := List.drop_left' (length_hex width c.toNat)
  rw [htake, hdrop, ofHex_hex h, Char.ofNat_toNat]

theorem toNat_lt (c : Char) : c.toNat < 0x110000 := by
  have hvalid := c.valid
  simp only [UInt32.isValidChar, Nat.isValidChar] at hvalid
  show c.val.toNat < 0x110000
  omega

/-- A character is read from the way it stands between quotes. -/
theorem unescape_escapeChar (hmark : mark = '\'' ∨ mark = '"') (c : Char) (x : Text) :
    unescape (escapeChar mark c ++ x) = some (c, x) := by
  -- the cases of `escapeChar`, in its order; the last three are the widths of a code point
  unfold escapeChar
  split
  · next h =>
    rcases h with rfl | rfl
    · rcases hmark with rfl | rfl <;> rfl
    · rfl
  next h =>
  rw [not_or] at h
  split
  · next ht => rw [ht]; rfl
  split
  · next hn => rw [hn]; rfl
  split
  · next hr => rw [hr]; rfl
  split
  · exact unescape_of_ne h.2 x
  split
  · next hsmall => exact congrArg some (hex_read_back 2 hsmall x)
  split
  · next hsmall => exact congrArg some (hex_read_back 4 hsmall x)
  · exact congrArg some (hex_read_back 8 (Nat.lt_trans (toNat_lt c) (by decide)) x)

theorem escapeChar_append_inj (hmark : mark = '\'' ∨ mark = '"')
    (h : escapeChar mark c ++ x = escapeChar mark c' ++ x') : c = c' ∧ x = x' := by
  have hread := congrArg unescape h
  rw [unescape_escapeChar hmark, unescape_escapeChar hmark] at hread
  exact Prod.mk.inj (Option.some.inj hread)

/-- A character other than the quote stands for itself, or there is a backslash in front. -/
theorem escapeChar_cases (mark c : Char) :
    escapeChar mark c = [c] ∧ c ≠ mark ∨ ∃ t, escapeChar mark c = '\\' :: t := by
  unfold escapeChar
  split
  · exact Or.inr ⟨[c], rfl⟩
  next h =>
  split
  · exact Or.inr ⟨['t'], rfl⟩
  split
  · exact Or.inr ⟨['n'], rfl⟩
  split
  · exact Or.inr ⟨['r'], rfl⟩
  split
  · exact Or.inl ⟨rfl, fun heq => h (Or.inl heq)⟩
  split
  · exact Or.inr ⟨_, rfl⟩
  split
  · exact Or.inr ⟨_, rfl⟩
  · exact Or.inr ⟨_, rfl⟩

/-- The enclosing quote does not begin a character. -/
theorem head?_escapeChar (hmark : mark = '\'' ∨ mark = '"') (c : Char) (x : Text) :
    (escapeChar mark c ++ x).head? ≠ some mark := by
  rcases escapeChar_cases mark c with ⟨hself, hne⟩ | ⟨t, hslash⟩
  · rw [hself]
    exact fun h => hne (Option.some.inj h)
  · rw [hslash]
    rcases hmark with rfl | rfl <;> exact fun h => absurd (Option.some.inj h) (by decide)

/-! ### Texts -/

/-- The first enclosing quote that is not escaped ends the text. -/
theorem flatMap_escapeChar_append_inj (hmark : mark = '\'' ∨ mark = '"')
    (h : s.flatMap (escapeChar mark) ++ mark :: x = s'.flatMap (escapeChar mark) ++ mark :: x') :
    s = s' ∧ x = x' := by
  -- the head tells whether there is a character left: no escaped one begins with the quote
  induction s generalizing s' with
  | nil =>
    cases s' with
    | nil => exact ⟨rfl, List.tail_eq_of_cons_eq h⟩
    | cons c' s' =>
      rw [List.flatMap_cons, List.append_assoc] at h
      exact absurd (congrArg List.head? h).symm (head?_escapeChar hmark c' _)
  | cons c s ih =>
    rw [List.flatMap_cons, List.append_assoc] at h
    cases s' with
    | nil => exact absurd (congrArg List.head? h) (head?_escapeChar hmark c _)
    | cons c' s' =>
      rw [List.flatMap_cons, List.append_assoc] at h
      obtain ⟨rfl, hrest⟩ := escapeChar_append_inj hmark h
      obtain ⟨rfl, hx⟩ := ih hrest
      exact ⟨rfl, hx⟩

/-- A quoted text ends in one place only and says what it quotes. -/
theorem quoted_append_inj (h : quoted s ++ x = quoted s' ++ x') : s = s' ∧ x = x' := by
  have hquoted : ∀ t y : Text, quoted t ++ y
      = quoteMark t :: (t.flatMap (escapeChar (quoteMark t)) ++ quoteMark t :: y) := fun t y => by
    rw [quoted, List.cons_append, List.cons_append, List.append_assoc, List.singleton_append]
  rw [hquoted, hquoted] at h
  obtain ⟨hmark, hbody⟩ := List.cons.inj h
  rw [← hmark] at hbody
  exact flatMap_escapeChar_append_inj (quoteMark_eq s) hbody

theorem head?_quoted (t x : Text) :
    (quoted t ++ x).head? = some '\'' ∨ (quoted t ++ x).head? = some '"' :=
  (quoteMark_eq t).imp (congrArg some) (congrArg some)

end TargetDocs.Text
