/-
UTF-8, read and written.

The bytes of a character are one below 0x80, or a lead byte and the tail that it asks for. Reading takes one
character at a time, so it succeeds on the bytes of a text and on no others, and what it cannot read begins
where the longest valid beginning ends:

* `encodeChar_of_opens`, `exists_opens` — lead bytes with their tails are the bytes of the characters above
  U+007F;
* `decodeFrom_char`, `exists_char_or_fault` — one character is read, or there is a fault in its place;
* `decode_eq_ok_iff` — the bytes that can be read are those of the texts;
* `isGreatest_position` — a fault stands where the longest valid beginning ends.
-/
import Mathlib.Order.Bounds.Basic
import TargetDocs.Text.Utf8

namespace TargetDocs.Text.Utf8

/-! ### Lead bytes and tails -/

/-- The bytes after a lead byte: one in the given range, then continuation bytes. -/
inductive IsTail : UInt8 → UInt8 → Nat → List UInt8 → Prop
  | last {low high b : UInt8} : low ≤ b → b ≤ high → IsTail low high 0 [b]
  | next {low high b : UInt8} {later : Nat} {bs : List UInt8} :
    low ≤ b → b ≤ high → IsTail 0x80 0xBF later bs → IsTail low high (later + 1) (b :: bs)

/-- The bits of a code point with those of a tail behind them. -/
def withTail (bits : Nat) (tail : List UInt8) : Nat :=
  tail.foldl (fun n b => n * 64 + b.toNat % 64) bits

/-- The role of a byte, by its number. -/
theorem Lead.ofByte_eq (b : UInt8) :
    Lead.ofByte b =
      if b.toNat < 0x80 then .ascii
      else if b.toNat < 0xC2 then .invalid
      else if b.toNat < 0xE0 then .opens (b.toNat - 0xC0) 1 0x80 0xBF
      else if b.toNat < 0xF0 then
        .opens (b.toNat - 0xE0) 2 (if b.toNat = 0xE0 then 0xA0 else 0x80)
          (if b.toNat = 0xED then 0x9F else 0xBF)
      else if b.toNat < 0xF5 then
        .opens (b.toNat - 0xF0) 3 (if b.toNat = 0xF0 then 0x90 else 0x80)
          (if b.toNat = 0xF4 then 0x8F else 0xBF)
      else .invalid := by
  unfold Lead.ofByte
  simp only [UInt8.lt_iff_toNat_lt, ← UInt8.toNat_inj, UInt8.reduceToNat]
  grind

theorem Lead.ofByte_eq_ascii_iff {b : UInt8} : Lead.ofByte b = .ascii ↔ b.toNat < 0x80 := by
  rw [Lead.ofByte_eq]
  grind

/-- The lead bytes of the sequences of two, three and four bytes. -/
theorem Lead.ofByte_eq_opens_iff {b low high : UInt8} {bits missing : Nat} :
    Lead.ofByte b = .opens bits missing low high
      ↔ (0xC2 ≤ b.toNat ∧ b.toNat < 0xE0 ∧ bits = b.toNat - 0xC0 ∧ missing = 1 ∧ low = 0x80 ∧ high = 0xBF)
        ∨ (0xE0 ≤ b.toNat ∧ b.toNat < 0xF0 ∧ bits = b.toNat - 0xE0 ∧ missing = 2
          ∧ low = (if b.toNat = 0xE0 then 0xA0 else 0x80)
          ∧ high = if b.toNat = 0xED then 0x9F else 0xBF)
        ∨ (0xF0 ≤ b.toNat ∧ b.toNat < 0xF5 ∧ bits = b.toNat - 0xF0 ∧ missing = 3
          ∧ low = (if b.toNat = 0xF0 then 0x90 else 0x80)
          ∧ high = if b.toNat = 0xF4 then 0x8F else 0xBF) := by
  rw [Lead.ofByte_eq]
  grind

theorem toNat_ofNat {n : Nat} (h : n.isValidChar) : (Char.ofNat n).val.toNat = n := by
  rw [Char.ofNat, dif_pos h]
  rfl

/-! ### The bytes of a character, by their number -/

theorem encodeChar_ascii {c : Char} (h : c.toNat < 0x80) :
    String.utf8EncodeChar c = [UInt8.ofNat c.toNat] :=
  if_pos (Nat.le_of_lt_succ h)

theorem encodeChar_ofNat_two {n : Nat} (hlower : 0x80 ≤ n) (hupper : n < 0x800) :
    String.utf8EncodeChar (Char.ofNat n) = [UInt8.ofNat (n / 64 + 0xC0), UInt8.ofNat (n % 64 + 0x80)] := by
  have hvalid : n.isValidChar := by unfold Nat.isValidChar; omega
  simp only [String.utf8EncodeChar, toNat_ofNat hvalid]
  rw [if_neg (by omega), if_pos (by omega), Nat.mod_eq_of_lt (by omega)]

theorem encodeChar_ofNat_three {n : Nat} (hvalid : n.isValidChar) (hlower : 0x800 ≤ n)
    (hupper : n < 0x10000) :
    String.utf8EncodeChar (Char.ofNat n)
      = [UInt8.ofNat (n / 4096 + 0xE0), UInt8.ofNat (n / 64 % 64 + 0x80), UInt8.ofNat (n % 64 + 0x80)] := by
  simp only [String.utf8EncodeChar, toNat_ofNat hvalid]
  rw [if_neg (by omega), if_neg (by omega), if_pos (by omega), Nat.mod_eq_of_lt (by omega)]

theorem encodeChar_ofNat_four {n : Nat} (hlower : 0x10000 ≤ n) (hupper : n < 0x110000) :
    String.utf8EncodeChar (Char.ofNat n)
      = [UInt8.ofNat (n / 262144 + 0xF0), UInt8.ofNat (n / 4096 % 64 + 0x80),
          UInt8.ofNat (n / 64 % 64 + 0x80), UInt8.ofNat (n % 64 + 0x80)] := by
  have hvalid : n.isValidChar := .inr ⟨by omega, hupper⟩
  simp only [String.utf8EncodeChar, toNat_ofNat hvalid]
  rw [if_neg (by omega), if_neg (by omega), if_neg (by omega), Nat.mod_eq_of_lt (by omega)]

theorem exists_byte {n : Nat} (h : n < 256) : ∃ b : UInt8, b.toNat = n :=
  ⟨UInt8.ofNat n, UInt8.toNat_ofNat'.trans (Nat.mod_eq_of_lt h)⟩

theorem ofNat_eq {n : Nat} {b : UInt8} (h : n = b.toNat) : UInt8.ofNat n = b := by
  rw [h, UInt8.ofNat_toNat]

/-- A lead byte and its tail are the bytes of a character. -/
theorem encodeChar_of_opens {b low high : UInt8} {bits missing : Nat} {tail : List UInt8}
    (hb : Lead.ofByte b = .opens bits missing low high) (htail : IsTail low high (missing - 1) tail) :
    String.utf8EncodeChar (Char.ofNat (withTail bits tail)) = b :: tail := by
  rcases Lead.ofByte_eq_opens_iff.mp hb with ⟨hlower, hupper, hbits, hmissing, hlow, hhigh⟩
    | ⟨hlower, hupper, hbits, hmissing, hlow, hhigh⟩ | ⟨hlower, hupper, hbits, hmissing, hlow, hhigh⟩
  · rw [hmissing, hlow, hhigh] at htail
    obtain @⟨_, _, x, hx, hx'⟩ := htail
    simp only [UInt8.le_iff_toNat_le, UInt8.reduceToNat] at hx hx'
    have hvalue : withTail bits [x] = bits * 64 + x.toNat % 64 := rfl
    rw [hvalue, encodeChar_ofNat_two (by omega) (by omega), ofNat_eq (b := b) (by omega),
      ofNat_eq (b := x) (by omega)]
  · rw [hmissing, hlow, hhigh] at htail
    obtain - | @⟨_, _, x, _, _, hx, hx', htail⟩ := htail
    obtain @⟨_, _, y, hy, hy'⟩ := htail
    simp only [UInt8.le_iff_toNat_le, UInt8.reduceToNat, apply_ite UInt8.toNat] at hx hx' hy hy'
    have hvalue : withTail bits [x, y] = (bits * 64 + x.toNat % 64) * 64 + y.toNat % 64 := rfl
    -- the restricted second byte keeps overlong forms and surrogates out
    have hfirst : 0x80 ≤ x.toNat ∧ (b.toNat = 0xE0 → 0xA0 ≤ x.toNat) := by grind
    have hfirst' : x.toNat ≤ 0xBF ∧ (b.toNat = 0xED → x.toNat ≤ 0x9F) := by grind
    have hvalid : ((bits * 64 + x.toNat % 64) * 64 + y.toNat % 64).isValidChar := by
      unfold Nat.isValidChar
      omega
    rw [hvalue, encodeChar_ofNat_three hvalid (by omega) (by omega), ofNat_eq (b := b) (by omega),
      ofNat_eq (b := x) (by omega), ofNat_eq (b := y) (by omega)]
  · rw [hmissing, hlow, hhigh] at htail
    obtain - | @⟨_, _, x, _, _, hx, hx', htail⟩ := htail
    obtain - | @⟨_, _, y, _, _, hy, hy', htail⟩ := htail
    obtain @⟨_, _, z, hz, hz'⟩ := htail
    simp only [UInt8.le_iff_toNat_le, UInt8.reduceToNat, apply_ite UInt8.toNat] at hx hx' hy hy' hz hz'
    have hfirst : 0x80 ≤ x.toNat ∧ (b.toNat = 0xF0 → 0x90 ≤ x.toNat) := by grind
    have hfirst' : x.toNat ≤ 0xBF ∧ (b.toNat = 0xF4 → x.toNat ≤ 0x8F) := by grind
    have hvalue : withTail bits [x, y, z]
      = ((bits * 64 + x.toNat % 64) * 64 + y.toNat % 64) * 64 + z.toNat % 64 := rfl
    rw [hvalue, encodeChar_ofNat_four (by omega) (by omega), ofNat_eq (b := b) (by omega),
      ofNat_eq (b := x) (by omega), ofNat_eq (b := y) (by omega), ofNat_eq (b := z) (by omega)]

/-- Every code point above U+007F has a lead byte and a tail. -/
theorem exists_opens {n : Nat} (hvalid : n.isValidChar) (hlower : 0x80 ≤ n) :
    ∃ b bits missing low high tail, Lead.ofByte b = .opens bits missing low high
      ∧ IsTail low high (missing - 1) tail ∧ withTail bits tail = n := by
  unfold Nat.isValidChar at hvalid
  obtain ⟨z, hz⟩ := exists_byte (n := n % 64 + 0x80) (by omega)
  obtain ⟨y, hy⟩ := exists_byte (n := n / 64 % 64 + 0x80) (by omega)
  obtain ⟨x, hx⟩ := exists_byte (n := n / 4096 % 64 + 0x80) (by omega)
  have hlast : IsTail 0x80 0xBF 0 [z] := by
    refine .last ?_ ?_
    all_goals
      simp only [UInt8.le_iff_toNat_le, UInt8.reduceToNat]
      omega
  by_cases htwo : n < 0x800
  · obtain ⟨b, hb⟩ := exists_byte (n := n / 64 + 0xC0) (by omega)
    refine ⟨b, _, _, _, _, [z],
      Lead.ofByte_eq_opens_iff.mpr (.inl ⟨by omega, by omega, rfl, rfl, rfl, rfl⟩), hlast, ?_⟩
    have hvalue : withTail (b.toNat - 0xC0) [z] = (b.toNat - 0xC0) * 64 + z.toNat % 64 := rfl
    omega
  by_cases hthree : n < 0x10000
  · obtain ⟨b, hb⟩ := exists_byte (n := n / 4096 + 0xE0) (by omega)
    refine ⟨b, _, _, _, _, [y, z],
      Lead.ofByte_eq_opens_iff.mpr (.inr (.inl ⟨by omega, by omega, rfl, rfl, rfl, rfl⟩)),
      .next ?_ ?_ hlast, ?_⟩
    · simp only [UInt8.le_iff_toNat_le, UInt8.reduceToNat, apply_ite UInt8.toNat]
      split <;> omega
    · simp only [UInt8.le_iff_toNat_le, UInt8.reduceToNat, apply_ite UInt8.toNat]
      split <;> omega
    · have hvalue : withTail (b.toNat - 0xE0) [y, z]
        = ((b.toNat - 0xE0) * 64 + y.toNat % 64) * 64 + z.toNat % 64 := rfl
      omega
  · obtain ⟨b, hb⟩ := exists_byte (n := n / 262144 + 0xF0) (by omega)
    have hmiddle : IsTail 0x80 0xBF 1 [y, z] := by
      refine .next ?_ ?_ hlast
      all_goals
        simp only [UInt8.le_iff_toNat_le, UInt8.reduceToNat]
        omega
    refine ⟨b, _, _, _, _, [x, y, z],
      Lead.ofByte_eq_opens_iff.mpr (.inr (.inr ⟨by omega, by omega, rfl, rfl, rfl, rfl⟩)),
      .next ?_ ?_ hmiddle, ?_⟩
    · simp only [UInt8.le_iff_toNat_le, UInt8.reduceToNat, apply_ite UInt8.toNat]
      split <;> omega
    · simp only [UInt8.le_iff_toNat_le, UInt8.reduceToNat, apply_ite UInt8.toNat]
      split <;> omega
    · have hvalue : withTail (b.toNat - 0xF0) [x, y, z]
        = (((b.toNat - 0xF0) * 64 + x.toNat % 64) * 64 + y.toNat % 64) * 64 + z.toNat % 64 := rfl
      omega

/-! ### Reading -/

/-- A tail is read to its end, whatever comes after it. -/
theorem decodeFrom_tail {low high : UInt8} {later : Nat} {tail : List UInt8}
    (h : IsTail low high later tail) (position seen bits : Nat) (lead : UInt8) (bs : List UInt8) :
    decodeFrom position (.within lead seen bits later low high) (tail ++ bs)
      = (Char.ofNat (withTail bits tail) :: ·)
          <$> decodeFrom (position + (seen + tail.length)) .between bs := by
  induction h generalizing seen bits with
  | last hlow hhigh =>
    rw [List.cons_append, decodeFrom, if_pos ⟨hlow, hhigh⟩]
    rfl
  | @next _ _ b later tail hlow hhigh _ ih =>
    have hlength : seen + (b :: tail).length = seen + 1 + tail.length := by
      rw [List.length_cons]
      omega
    rw [List.cons_append, decodeFrom, if_pos ⟨hlow, hhigh⟩, hlength]
    exact ih (seen + 1) _

/-- Within a sequence the bytes go on with a tail, or there is a fault where the sequence begins. -/
theorem exists_tail_or_fault (later : Nat) (low high : UInt8) (position seen bits : Nat) (lead : UInt8)
    (bs : List UInt8) :
    (∃ tail rest, bs = tail ++ rest ∧ IsTail low high later tail)
      ∨ ∃ f, decodeFrom position (.within lead seen bits later low high) bs = .error f
        ∧ f.position = position := by
  induction later generalizing low high seen bits bs with
  | zero =>
    cases bs with
    | nil => exact .inr ⟨_, rfl, rfl⟩
    | cons b bs =>
      by_cases hb : low ≤ b ∧ b ≤ high
      · exact .inl ⟨[b], bs, rfl, .last hb.1 hb.2⟩
      · exact .inr ⟨_, if_neg hb, rfl⟩
  | succ later ih =>
    cases bs with
    | nil => exact .inr ⟨_, rfl, rfl⟩
    | cons b bs =>
      by_cases hb : low ≤ b ∧ b ≤ high
      · rcases ih 0x80 0xBF (seen + 1) (bits * 64 + b.toNat % 64) bs with
          ⟨tail, rest, rfl, htail⟩ | ⟨f, hf, hposition⟩
        · exact .inl ⟨b :: tail, rest, rfl, .next hb.1 hb.2 htail⟩
        · exact .inr ⟨f, (if_pos hb).trans hf, hposition⟩
      · exact .inr ⟨_, if_neg hb, rfl⟩

/-- The bytes of a character in front of others are read as that character. -/
theorem decodeFrom_char (c : Char) (position : Nat) (bs : List UInt8) :
    decodeFrom position .between (String.utf8EncodeChar c ++ bs)
      = (c :: ·) <$> decodeFrom (position + (String.utf8EncodeChar c).length) .between bs := by
  by_cases hascii : c.toNat < 0x80
  · obtain ⟨b, hb⟩ := exists_byte (n := c.toNat) (by omega)
    have hsmall : b < 0x80 := UInt8.lt_iff_toNat_lt.mpr (hb ▸ hascii)
    rw [encodeChar_ascii hascii, ofNat_eq hb.symm, List.cons_append, decodeFrom_ascii_cons hsmall, hb,
      Char.ofNat_toNat]
    rfl
  · obtain ⟨b, bits, missing, low, high, tail, hb, htail, hvalue⟩ :=
      exists_opens c.valid (Nat.not_lt.mp hascii)
    have hc : Char.ofNat (withTail bits tail) = c := (congrArg Char.ofNat hvalue).trans (Char.ofNat_toNat c)
    rw [← hc, encodeChar_of_opens hb htail, List.cons_append, decodeFrom, hb]
    dsimp only
    rw [decodeFrom_tail htail, Nat.add_comm 1, List.length_cons]

/-- Bytes begin with those of a character, or there is a fault right where they begin. -/
theorem exists_char_or_fault (position : Nat) {bs : List UInt8} (hne : bs ≠ []) :
    (∃ c rest, bs = String.utf8EncodeChar c ++ rest)
      ∨ ∃ f, decodeFrom position .between bs = .error f ∧ f.position = position := by
  obtain ⟨b, bs, rfl⟩ := List.exists_cons_of_ne_nil hne
  cases hb : Lead.ofByte b with
  | ascii =>
    have hsmall : b.toNat < 0x80 := Lead.ofByte_eq_ascii_iff.mp hb
    have hvalue : (Char.ofNat b.toNat).toNat = b.toNat := toNat_ofNat (.inl (by omega))
    refine .inl ⟨Char.ofNat b.toNat, bs, ?_⟩
    rw [encodeChar_ascii (by rwa [hvalue]), hvalue, UInt8.ofNat_toNat]
    rfl
  | opens bits missing low high =>
    rcases exists_tail_or_fault (missing - 1) low high position 1 bits b bs with
      ⟨tail, rest, rfl, htail⟩ | ⟨f, hf, hposition⟩
    · refine .inl ⟨Char.ofNat (withTail bits tail), rest, ?_⟩
      rw [encodeChar_of_opens hb htail, List.cons_append]
    · refine .inr ⟨f, ?_, hposition⟩
      rw [decodeFrom, hb]
      exact hf
  | invalid =>
    refine .inr ⟨⟨position, 1, b, .badStart⟩, ?_, rfl⟩
    rw [decodeFrom, hb]

/-- The bytes of a text in front of others are read as that text. -/
theorem decodeFrom_encode_append (t : Text) (position : Nat) (bs : List UInt8) :
    decodeFrom position .between (encode t ++ bs)
      = (t ++ ·) <$> decodeFrom (position + (encode t).length) .between bs := by
  induction t generalizing position with
  | nil =>
    show _ = id <$> decodeFrom position .between bs
    rw [id_map]
    rfl
  | cons c t ih =>
    rw [encode_cons, List.append_assoc, decodeFrom_char, ih, List.length_append, Nat.add_assoc,
      ← comp_map]
    rfl

/-- Bytes are those of a text, or those of a text with a fault behind them. -/
theorem text_or_fault (bs : List UInt8) (position : Nat) :
    (∃ t, bs = encode t)
      ∨ ∃ t rest f, bs = encode t ++ rest ∧ decodeFrom position .between bs = .error f
        ∧ f.position = position + (encode t).length := by
  induction hn : bs.length using Nat.strong_induction_on generalizing bs position with
  | h n ih =>
  by_cases hne : bs = []
  · exact .inl ⟨[], hne⟩
  rcases exists_char_or_fault position hne with ⟨c, rest, rfl⟩ | ⟨f, hf, hposition⟩
  · have hlength : rest.length < n := by
      have := Char.utf8Size_pos c
      rw [List.length_append, String.length_utf8EncodeChar] at hn
      omega
    rcases ih _ hlength rest (position + (String.utf8EncodeChar c).length) rfl with
      ⟨t, rfl⟩ | ⟨t, rest, f, rfl, hf, hposition⟩
    · exact .inl ⟨c :: t, rfl⟩
    · refine .inr ⟨c :: t, rest, f, ?_, ?_, ?_⟩
      · rw [encode_cons, List.append_assoc]
      · rw [decodeFrom_char, hf]
        rfl
      · rw [hposition, encode_cons, List.length_append, Nat.add_assoc]
  · exact .inr ⟨[], bs, f, rfl, hf, hposition⟩

/-! ### Valid bytes -/

theorem encode_append (s t : Text) : encode (s ++ t) = encode s ++ encode t := List.flatMap_append

/-- The bytes are those of a text. -/
def IsValid (bs : List UInt8) : Prop := ∃ t, bs = encode t

theorem decode_encode (t : Text) : decode (encode t) = .ok t := by
  have h := decodeFrom_encode_append t 0 []
  rw [List.append_nil] at h
  rw [decode, h]
  exact congrArg Except.ok (List.append_nil t)

theorem decode_eq_ok_iff {bs : List UInt8} {t : Text} : decode bs = .ok t ↔ bs = encode t := by
  constructor
  · intro h
    rcases text_or_fault bs 0 with ⟨u, rfl⟩ | ⟨u, rest, f, -, hf, -⟩
    · rw [Except.ok.inj ((decode_encode u).symm.trans h)]
    · cases hf.symm.trans h
  · rintro rfl
    exact decode_encode t

/-- A fault stands where the longest valid beginning of the bytes ends. -/
theorem isGreatest_position {bs : List UInt8} {f : Fault} (h : decode bs = .error f) :
    IsGreatest {n | ∃ valid, valid <+: bs ∧ IsValid valid ∧ valid.length = n} f.position := by
  constructor
  · rcases text_or_fault bs 0 with ⟨t, rfl⟩ | ⟨t, rest, g, hbs, hg, hposition⟩
    · cases h.symm.trans (decode_encode t)
    · obtain rfl : g = f := Except.error.inj (hg.symm.trans h)
      exact ⟨encode t, ⟨rest, hbs.symm⟩, ⟨t, rfl⟩, by rw [hposition, Nat.zero_add]⟩
  · rintro n ⟨_, ⟨rest, rfl⟩, ⟨t, rfl⟩, rfl⟩
    have hrest := decodeFrom_encode_append t 0 rest
    rw [Nat.zero_add] at hrest
    rcases text_or_fault rest (encode t).length with ⟨u, rfl⟩ | ⟨u, _, g, -, hg, hposition⟩
    · rw [← encode_append, decode_encode] at h
      cases h
    · rw [hg] at hrest
      obtain rfl : g = f := Except.error.inj (hrest.symm.trans h)
      rw [hposition]
      exact Nat.le_add_right _ _

/-- Bytes that are not valid have a fault. -/
theorem exists_fault_of_not_isValid {bs : List UInt8} (h : ¬ IsValid bs) : ∃ f, decode bs = .error f := by
  cases hread : decode bs with
  | ok t => exact absurd ⟨t, decode_eq_ok_iff.mp hread⟩ h
  | error f => exact ⟨f, rfl⟩

end TargetDocs.Text.Utf8
