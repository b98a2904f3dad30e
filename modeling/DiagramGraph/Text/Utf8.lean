/-
DiagramGraph.Text.Utf8 — texts as bytes.

`encode` writes a text in UTF-8; `decode` reads it back or says where
and why it cannot. The decoder is a machine that reads one byte at a
time: either it stands between two characters, or it waits for the
continuation bytes of one (`Pending`). A faulty sequence is reported
with the bytes that were still a valid beginning, so the report covers
the longest beginning of a character and never the byte after it.
-/
import DiagramGraph.Text.Quoted

namespace DiagramGraph.Text.Utf8

/-! ## §1 Faults -/

/-- Why bytes are no UTF-8 text. -/
inductive Reason
  /-- The byte begins no character. -/
  | invalidStart
  /-- A byte inside a character is no continuation byte. -/
  | invalidContinuation
  /-- The bytes end inside a character. -/
  | unexpectedEnd
  deriving DecidableEq, Repr

/-- The place of the first fault: the bytes from `start` up to, not
including, `stop`, the first of which is `byte`. -/
structure Fault where
  start : Nat
  stop : Nat
  byte : UInt8
  reason : Reason
  deriving DecidableEq, Repr

/-- The wording of a reason. -/
def Reason.message : Reason → Text
  | .invalidStart => "invalid start byte".toList
  | .invalidContinuation => "invalid continuation byte".toList
  | .unexpectedEnd => "unexpected end of data".toList

/-- The message of a fault: one byte is shown, several are given by the
positions of the first and the last. -/
def Fault.message (f : Fault) : Text :=
  let place :=
    if f.stop = f.start + 1 then
      "byte 0x".toList ++ hex 2 f.byte.toNat ++ " in position ".toList ++
        Nat.toDigits 10 f.start
    else
      "bytes in position ".toList ++ Nat.toDigits 10 f.start ++ ['-'] ++
        Nat.toDigits 10 (f.stop - 1)
  "'utf-8' codec can't decode ".toList ++ place ++ ": ".toList ++ f.reason.message

/-! ## §2 Decoding -/

/-- A character of which some bytes are still missing: where it starts,
its first byte, the bits read so far, the number of missing bytes and
the bounds of the next one. -/
structure Pending where
  start : Nat
  first : UInt8
  code : Nat
  missing : Nat
  low : UInt8 := 0x80
  high : UInt8 := 0xBF

/-- The character that a byte beyond ASCII begins, if any. The bounds
of the second byte leave out the long forms of short characters, the
surrogates and what lies beyond U+10FFFF. -/
def begin? (pos : Nat) (b : UInt8) : Option Pending :=
  if 0xC2 ≤ b ∧ b ≤ 0xDF then some ⟨pos, b, b.toNat - 0xC0, 1, 0x80, 0xBF⟩
  else if b = 0xE0 then some ⟨pos, b, 0, 2, 0xA0, 0xBF⟩
  else if b = 0xED then some ⟨pos, b, 0xD, 2, 0x80, 0x9F⟩
  else if 0xE1 ≤ b ∧ b ≤ 0xEF then some ⟨pos, b, b.toNat - 0xE0, 2, 0x80, 0xBF⟩
  else if b = 0xF0 then some ⟨pos, b, 0, 3, 0x90, 0xBF⟩
  else if 0xF1 ≤ b ∧ b ≤ 0xF3 then some ⟨pos, b, b.toNat - 0xF0, 3, 0x80, 0xBF⟩
  else if b = 0xF4 then some ⟨pos, b, 4, 3, 0x80, 0x8F⟩
  else none

/-- The text of the bytes from position `pos` on, after what is pending. -/
def decodeFrom : Option Pending → Nat → List UInt8 → Except Fault Text
  | none, _, [] => .ok []
  | some p, pos, [] => .error ⟨p.start, pos, p.first, .unexpectedEnd⟩
  | none, pos, b :: rest =>
    if b < 0x80 then
      (decodeFrom none (pos + 1) rest).map (Char.ofNat b.toNat :: ·)
    else
      match begin? pos b with
      | none => .error ⟨pos, pos + 1, b, .invalidStart⟩
      | some p => decodeFrom (some p) (pos + 1) rest
  | some p, pos, b :: rest =>
    if p.low ≤ b ∧ b ≤ p.high then
      let code := p.code * 64 + b.toNat % 64
      if p.missing ≤ 1 then
        (decodeFrom none (pos + 1) rest).map (Char.ofNat code :: ·)
      else
        decodeFrom (some ⟨p.start, p.first, code, p.missing - 1, 0x80, 0xBF⟩) (pos + 1) rest
    else .error ⟨p.start, pos, p.first, .invalidContinuation⟩

/-- The text of the bytes. -/
def decode (bytes : List UInt8) : Except Fault Text := decodeFrom none 0 bytes

/-! ## §3 Encoding -/

/-- The bytes of the text. -/
def encode (t : Text) : List UInt8 := t.flatMap String.utf8EncodeChar

end DiagramGraph.Text.Utf8
