/-
Decimal writings, read and written.

* `readInt_digits` — digits alone are read as the number that they write, unless there are too many;
* `readWidth_decimal` — the decimal writing of a positive number, perhaps after zeros, is a width;
* `length_decimal_of_readInt` — a number that was read is short enough to be written again.
-/
import Mathlib.Algebra.Group.Nat.Defs
import Mathlib.Data.List.Induction
import TargetDocs.Preferences

namespace TargetDocs.Text

theorem ofDigits_lt {ds : List Nat} (h : ∀ d ∈ ds, d < 10) : ofDigits ds < 10 ^ ds.length := by
  induction ds using List.reverseRecOn with
  | nil => exact Nat.one_pos
  | append_singleton ds d ih =>
    have hd : d < 10 := h d (by simp)
    have hds : ofDigits ds < 10 ^ ds.length := ih fun x hx => h x (List.mem_append_left [d] hx)
    have hstep : ofDigits (ds ++ [d]) = 10 * ofDigits ds + d := by
      rw [ofDigits, List.foldl_append]
      rfl
    rw [hstep, List.length_append, List.length_singleton, Nat.pow_succ]
    omega

/-! ### Digits alone -/

theorem toNat_of_isDigit {c : Char} (h : c.isDigit) : 48 ≤ c.toNat ∧ c.toNat < 58 := by
  simp only [Char.isDigit, ge_iff_le, Bool.and_eq_true, decide_eq_true_eq, UInt32.le_iff_toNat_le] at h
  have hlower : 48 ≤ c.toNat := h.1
  have hupper : c.toNat ≤ 57 := h.2
  omega

theorem digitValue?_of_isDigit {c : Char} (h : c.isDigit) : digitValue? c = some (c.toNat - 48) := by
  have hrange := toNat_of_isDigit h
  rw [digitValue?, digitZeros, List.find?_cons_of_pos (by simpa using hrange)]
  rfl

theorem readDigits_digits {t : Text} (hne : t ≠ []) (h : ∀ c ∈ t, c.isDigit) :
    readDigits t = some (t.map fun c => c.toNat - 48) := by
  fun_induction readDigits t with
  | case1 => exact absurd rfl hne
  | case2 c => rw [digitValue?_of_isDigit (h c List.mem_cons_self)]; rfl
  | case3 c t ih => exact absurd (h '_' (by simp)) (by decide)
  | case4 c d t _ ih =>
    rw [digitValue?_of_isDigit (h c List.mem_cons_self),
      ih (List.cons_ne_nil d t) fun x hx => h x (List.mem_cons_of_mem c hx)]
    rfl

theorem not_isMargin_of_not_isBlank {c : Char} (h : isBlank c = false) : isMargin c = false := by
  rw [← Bool.not_eq_true] at h ⊢
  exact mt isBlank_of_isMargin h

theorem not_isMargin_of_isDigit {c : Char} (h : c.isDigit) : isMargin c = false := by
  have hrange := toNat_of_isDigit h
  exact not_isMargin_of_not_isBlank (isBlank_of_visible (by omega) (by omega))

theorem trim_eq_self {p : Char → Bool} {t : Text} (h : ∀ c ∈ t, p c = false) : trim p t = t := by
  have hdrop : ∀ u : Text, (∀ c ∈ u, p c = false) → u.dropWhile p = u := by
    intro u hu
    cases u with
    | nil => rfl
    | cons c u => rw [List.dropWhile_cons_of_neg (by simp [hu c List.mem_cons_self])]
  rw [trim, hdrop t h, hdrop t.reverse fun c hc => h c (List.mem_reverse.mp hc), List.reverse_reverse]

/-- Digits alone are read as the number that they write. -/
theorem readInt_digits {t : Text} (hne : t ≠ []) (h : ∀ c ∈ t, c.isDigit)
    (hlength : t.length ≤ maxDigits) : readInt t = some (Nat.ofDigitChars 10 t 0 : Int) := by
  have htrim : trim isMargin t = t := trim_eq_self fun c hc => not_isMargin_of_isDigit (h c hc)
  have hsign : readSign t = (false, t) := by
    unfold readSign
    split
    · exact absurd (h '-' List.mem_cons_self) (by decide)
    · exact absurd (h '+' List.mem_cons_self) (by decide)
    · rfl
  have hvalue : ofDigits (t.map fun c => c.toNat - 48) = Nat.ofDigitChars 10 t 0 := by
    rw [ofDigits, List.foldl_map, Nat.ofDigitChars_eq_foldl]
    rfl
  rw [readInt, htrim, hsign]
  dsimp only
  rw [readDigits_digits hne h]
  dsimp only
  rw [if_neg (by rw [List.length_map]; exact Nat.not_lt.mpr hlength), hvalue]
  exact if_neg Bool.false_ne_true

theorem isDigit_of_mem_decimal {n : Nat} {c : Char} (h : c ∈ decimal n) : c.isDigit :=
  Nat.isDigit_of_mem_toDigits (by decide) (by decide) h

theorem isDigit_of_mem_zeros_decimal {n zeros : Nat} {c : Char}
    (h : c ∈ List.replicate zeros '0' ++ decimal n) : c.isDigit := by
  rcases List.mem_append.mp h with h | h
  · rw [List.eq_of_mem_replicate h]
    rfl
  · exact isDigit_of_mem_decimal h

/-- The decimal writing of a positive number, perhaps after zeros, is a width. -/
theorem readWidth_decimal {n zeros : Nat} (hn : 0 < n)
    (hlength : zeros + (decimal n).length ≤ maxDigits) :
    readWidth (List.replicate zeros '0' ++ decimal n) = .ok n := by
  have hne : List.replicate zeros '0' ++ decimal n ≠ [] :=
    List.append_ne_nil_of_right_ne_nil _ Nat.toDigits_ne_nil
  have hvalue : Nat.ofDigitChars 10 (List.replicate zeros '0' ++ decimal n) 0 = n := by
    rw [Nat.ofDigitChars_append, Nat.ofDigitChars_replicate_zero, Nat.mul_zero, decimal,
      Nat.ofDigitChars_ten_toDigits]
  have hread := readInt_digits hne (fun _ => isDigit_of_mem_zeros_decimal) (by simpa using hlength)
  rw [readWidth, hread, hvalue]
  exact if_neg (by omega)

/-! ### Numbers that were read -/

/-- A number that was read has at most as many digits as may be read. -/
theorem length_decimal_of_readInt {t : Text} {n : Int} (h : readInt t = some n) :
    (decimal n.natAbs).length ≤ maxDigits := by
  unfold readInt at h
  split at h
  next negative body _ =>
  split at h
  · cases h
  · next ds hds =>
    split at h
    · cases h
    · next hlength =>
      have habs : n.natAbs = ofDigits ds := by
        split at h
        · obtain rfl := Option.some.inj h
          exact Int.natAbs_neg _
        · obtain rfl := Option.some.inj h
          rfl
      have hlt : ofDigits ds < 10 ^ maxDigits :=
        Nat.lt_of_lt_of_le (ofDigits_lt (readDigits_lt hds))
          (Nat.pow_le_pow_right (by decide) (Nat.not_lt.mp hlength))
      rw [habs, decimal]
      exact (Nat.length_toDigits_le_iff (by decide) (by decide)).mpr hlt

theorem readInt_of_readWidth {t : Text} {n : Int} (h : readWidth t = .ok n) : readInt t = some n := by
  unfold readWidth at h
  split at h
  · cases h
  · next m hm =>
    split at h
    · cases h
    · rw [hm, Except.ok.inj h]

end TargetDocs.Text
