/-
UTF-8 and line ends.

Bytes are decoded one at a time. A lead byte says how many bytes follow it and in which range the
next one lies, which keeps overlong forms, surrogates and code points above U+10FFFF out; all later
ones are continuation bytes. The first sequence that breaks off or goes on wrongly is reported with
its position, its length and the reason.

After decoding, every line ends with a line feed: a carriage return with a line feed after it, and a
carriage return alone, become one.

Main statements:
* `decodeFrom_ascii_cons` — bytes below 0x80 stand for themselves;
* `unifyLineEnds_of_noReturn` — a text without carriage returns stays as it is.
-/
import TargetDocs.Text.Basic

namespace TargetDocs.Text.Utf8

/-- Why a byte sequence stands for no character. -/
inductive Flaw
  /-- its first byte begins no sequence -/
  | badStart
  /-- the byte after it is not one that may come next -/
  | badContinuation
  /-- the input ends within it -/
  | truncated
  deriving DecidableEq, Repr

/-- The first faulty sequence of an input. -/
structure Fault where
  /-- where the sequence begins -/
  position : Nat
  /-- the number of its bytes, at least one -/
  length : Nat
  /-- the byte it begins with -/
  lead : UInt8
  flaw : Flaw
  deriving DecidableEq, Repr

/-- What a byte at the start of a sequence says. -/
inductive Lead
  | ascii
  /-- the bits of the code point, the number of bytes to come, the range of the next one -/
  | opens (bits missing : Nat) (low high : UInt8)
  | invalid
  deriving DecidableEq, Repr

/-- The role of a byte at the start of a sequence. -/
def Lead.ofByte (b : UInt8) : Lead :=
  if b < 0x80 then .ascii
  else if b < 0xC2 then .invalid
  else if b < 0xE0 then .opens (b.toNat - 0xC0) 1 0x80 0xBF
  else if b = 0xE0 then .opens 0x0 2 0xA0 0xBF
  else if b = 0xED then .opens 0xD 2 0x80 0x9F
  else if b < 0xF0 then .opens (b.toNat - 0xE0) 2 0x80 0xBF
  else if b = 0xF0 then .opens 0 3 0x90 0xBF
  else if b < 0xF4 then .opens (b.toNat - 0xF0) 3 0x80 0xBF
  else if b = 0xF4 then .opens 4 3 0x80 0x8F
  else .invalid

/-- Between two sequences, or within one. -/
inductive State
  | between
  /-- the lead byte, the number of bytes seen, the bits so far, the number of bytes missing after
  the next one, and the range of the next one -/
  | within (lead : UInt8) (seen bits later : Nat) (low high : UInt8)
  deriving DecidableEq, Repr

/-- Decodes from the given state; `position` is that of the sequence at hand. -/
def decodeFrom (position : Nat) : State → List UInt8 → Except Fault Text
  | .between, [] => .ok []
  | .between, b :: bs =>
    match Lead.ofByte b with
    | .ascii => (Char.ofNat b.toNat :: ·) <$> decodeFrom (position + 1) .between bs
    | .opens bits missing low high =>
      decodeFrom position (.within b 1 bits (missing - 1) low high) bs
    | .invalid => .error ⟨position, 1, b, .badStart⟩
  | .within lead seen _ _ _ _, [] => .error ⟨position, seen, lead, .truncated⟩
  | .within lead seen bits later low high, b :: bs =>
    if low ≤ b ∧ b ≤ high then
      let bits := bits * 64 + b.toNat % 64
      match later with
      | 0 => (Char.ofNat bits :: ·) <$> decodeFrom (position + seen + 1) .between bs
      | later + 1 => decodeFrom position (.within lead (seen + 1) bits later 0x80 0xBF) bs
    else .error ⟨position, seen, lead, .badContinuation⟩

/-- The text that bytes stand for, or the first sequence that stands for nothing. -/
def decode (bs : List UInt8) : Except Fault Text := decodeFrom 0 .between bs

/-- The bytes of a text. -/
def encode (t : Text) : List UInt8 := t.flatMap String.utf8EncodeChar

@[simp] theorem decode_nil : decode [] = .ok [] := rfl

@[simp] theorem encode_nil : encode [] = [] := rfl

@[simp] theorem encode_cons (c : Char) (t : Text) :
    encode (c :: t) = String.utf8EncodeChar c ++ encode t := rfl

/-- A byte below 0x80 stands for the character of that number. -/
theorem decodeFrom_ascii_cons {b : UInt8} (h : b < 0x80) (position : Nat) (bs : List UInt8) :
    decodeFrom position .between (b :: bs)
      = (Char.ofNat b.toNat :: ·) <$> decodeFrom (position + 1) .between bs := by
  simp [decodeFrom, Lead.ofByte, h]

end Utf8

/-- The text with a line feed for every line end. -/
def unifyLineEnds : Text → Text
  | [] => []
  | '\r' :: '\n' :: t => '\n' :: unifyLineEnds t
  | c :: t => (if c = '\r' then '\n' else c) :: unifyLineEnds t

/-- A text without carriage returns stays as it is. -/
theorem unifyLineEnds_of_noReturn {t : Text} (h : '\r' ∉ t) : unifyLineEnds t = t := by
  fun_induction unifyLineEnds t with
  | case1 => rfl
  | case2 t ih => simp at h
  | case3 c t _ ih =>
    simp only [List.mem_cons, not_or] at h
    rw [ih h.2, if_neg fun e => h.1 e.symm]

end TargetDocs.Text
