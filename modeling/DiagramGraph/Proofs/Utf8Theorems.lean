/-
DiagramGraph.Proofs.Utf8Theorems — a text that was encoded is read back.

  §1 Continuation bytes — six bits each, added to what is pending.
  §2 First bytes        — `begin?` on the first bytes that an encoder
                          writes, by the number of bytes that follow.
  §3 Characters         — the bytes of one character, for each of the four
                          widths, whatever bytes come after them. The
                          bounds of a second byte never get in the way:
                          an encoder takes the shortest form, and no
                          character is a surrogate.
  §4 Texts              — `decode_encode`.
-/
import DiagramGraph.Text.Utf8
import Mathlib.Tactic.IntervalCases

namespace DiagramGraph.Text.Utf8

/-! ## §1 Continuation bytes -/

section Continuation

variable {start code missing bits : Nat} {first low high : UInt8}

/-- A byte within the bounds is taken: it ends the character, or one
byte less is missing. -/
theorem decodeFrom_continue (hbits : bits < 64) (hlow : low.toNat ≤ bits + 128)
    (hhigh : bits + 128 ≤ high.toNat) (pos : Nat) (rest : List UInt8) :
    decodeFrom (some ⟨start, first, code, missing, low, high⟩) pos
        (UInt8.ofNat (bits + 128) :: rest) =
      if missing ≤ 1 then
        (decodeFrom none (pos + 1) rest).map (Char.ofNat (code * 64 + bits) :: ·)
      else
        decodeFrom (some ⟨start, first, code * 64 + bits, missing - 1, 0x80, 0xBF⟩) (pos + 1)
          rest := by
  have hbyte : (UInt8.ofNat (bits + 128)).toNat = bits + 128 := UInt8.toNat_ofNat_of_lt' (show _ < 256 by omega)
  have hwithin : low ≤ UInt8.ofNat (bits + 128) ∧ UInt8.ofNat (bits + 128) ≤ high := by
    rw [UInt8.le_iff_toNat_le, UInt8.le_iff_toNat_le, hbyte]
    exact ⟨hlow, hhigh⟩
  have hcode : (bits + 128) % 64 = bits := by omega
  rw [decodeFrom, if_pos hwithin, hbyte, hcode]

/-- A byte that neither begins nor ends a character. -/
theorem decodeFrom_inner (hbits : bits < 64) (hlow : low.toNat ≤ bits + 128)
    (hhigh : bits + 128 ≤ high.toNat) (pos : Nat) (rest : List UInt8) :
    decodeFrom (some ⟨start, first, code, missing + 2, low, high⟩) pos
        (UInt8.ofNat (bits + 128) :: rest) =
      decodeFrom (some ⟨start, first, code * 64 + bits, missing + 1, 0x80, 0xBF⟩) (pos + 1)
        rest :=
  decodeFrom_continue hbits hlow hhigh pos rest

/-- The last byte of a character. -/
theorem decodeFrom_last (hbits : bits < 64) (pos : Nat) (rest : List UInt8) :
    decodeFrom (some ⟨start, first, code, 1, 0x80, 0xBF⟩) pos (UInt8.ofNat (bits + 128) :: rest) =
      (decodeFrom none (pos + 1) rest).map (Char.ofNat (code * 64 + bits) :: ·) := by
  have hlow : (0x80 : UInt8).toNat ≤ bits + 128 := Nat.le_add_left 128 bits
  have hhigh : bits + 128 ≤ (0xBF : UInt8).toNat := show bits + 128 ≤ 191 by omega
  exact decodeFrom_continue hbits hlow hhigh pos rest

end Continuation

/-! ## §2 First bytes -/

theorem decodeFrom_begin {n : Nat} (hn : n < 256) (hwide : 128 ≤ n) {pos : Nat} {p : Pending}
    (h : begin? pos (UInt8.ofNat n) = some p) (rest : List UInt8) :
    decodeFrom none pos (UInt8.ofNat n :: rest) = decodeFrom (some p) (pos + 1) rest := by
  have hbyte : ¬ UInt8.ofNat n < 0x80 := by
    rw [UInt8.lt_iff_toNat_lt, UInt8.toNat_ofNat_of_lt' hn]
    simpa using hwide
  rw [decodeFrom, if_neg hbyte, h]

theorem begin?_two {n : Nat} (h : n < 30) (pos : Nat) :
    begin? pos (UInt8.ofNat (n + 194)) =
      some ⟨pos, UInt8.ofNat (n + 194), n + 2, 1, 0x80, 0xBF⟩ := by
  interval_cases n <;> rfl

/-- Three bytes: the bounds leave out long forms and surrogates. -/
theorem begin?_three {n : Nat} (h : n < 16) (pos : Nat) :
    begin? pos (UInt8.ofNat (n + 224)) = some ⟨pos, UInt8.ofNat (n + 224), n, 2,
      if n = 0 then 0xA0 else 0x80, if n = 13 then 0x9F else 0xBF⟩ := by
  interval_cases n <;> rfl

/-- Four bytes: the bounds leave out long forms and what is beyond the
last character. -/
theorem begin?_four {n : Nat} (h : n < 5) (pos : Nat) :
    begin? pos (UInt8.ofNat (n + 240)) = some ⟨pos, UInt8.ofNat (n + 240), n, 3,
      if n = 0 then 0x90 else 0x80, if n = 4 then 0x8F else 0xBF⟩ := by
  interval_cases n <;> rfl

/-! ## §3 Characters -/

section Widths

variable {v : Nat} (pos : Nat) (rest : List UInt8)

theorem decodeFrom_one (h : v ≤ 127) :
    decodeFrom none pos (UInt8.ofNat v :: rest) =
      (decodeFrom none (pos + 1) rest).map (Char.ofNat v :: ·) := by
  have hbyte : (UInt8.ofNat v).toNat = v := UInt8.toNat_ofNat_of_lt' (show _ < 256 by omega)
  have hsmall : UInt8.ofNat v < 0x80 := by
    rw [UInt8.lt_iff_toNat_lt, hbyte]
    exact Nat.lt_succ_of_le h
  rw [decodeFrom, if_pos hsmall, hbyte]

theorem decodeFrom_two (hlow : 127 < v) (hhigh : v ≤ 2047) :
    decodeFrom none pos
        (UInt8.ofNat (v / 64 % 32 + 192) :: UInt8.ofNat (v % 64 + 128) :: rest) =
      (decodeFrom none (pos + 2) rest).map (Char.ofNat v :: ·) := by
  have hfirst : v / 64 % 32 + 192 = (v / 64 - 2) + 194 := by omega
  have hcode : (v / 64 - 2 + 2) * 64 + v % 64 = v := by omega
  rw [hfirst, decodeFrom_begin (by omega) (by omega) (begin?_two (by omega) pos),
    decodeFrom_last (by omega), hcode]

theorem decodeFrom_three (hlow : 2047 < v) (hhigh : v ≤ 65535)
    (hvalid : v < 0xD800 ∨ 0xDFFF < v) :
    decodeFrom none pos (UInt8.ofNat (v / 4096 % 16 + 224) :: UInt8.ofNat (v / 64 % 64 + 128) ::
        UInt8.ofNat (v % 64 + 128) :: rest) =
      (decodeFrom none (pos + 3) rest).map (Char.ofNat v :: ·) := by
  have hcode : (v / 4096 % 16 * 64 + v / 64 % 64) * 64 + v % 64 = v := by omega
  have hleast : (if v / 4096 % 16 = 0 then (0xA0 : UInt8) else 0x80).toNat ≤
      v / 64 % 64 + 128 := by
    split
    · next h => exact show 160 ≤ v / 64 % 64 + 128 by omega
    · exact Nat.le_add_left 128 _
  have hmost : v / 64 % 64 + 128 ≤
      (if v / 4096 % 16 = 13 then (0x9F : UInt8) else 0xBF).toNat := by
    split
    · next h => exact show v / 64 % 64 + 128 ≤ 159 by omega
    · exact show v / 64 % 64 + 128 ≤ 191 by omega
  rw [decodeFrom_begin (by omega) (by omega) (begin?_three (by omega) pos),
    decodeFrom_inner (by omega) hleast hmost, decodeFrom_last (by omega), hcode]

theorem decodeFrom_four (hlow : 65535 < v) (hhigh : v < 0x110000) :
    decodeFrom none pos (UInt8.ofNat (v / 262144 % 8 + 240) ::
        UInt8.ofNat (v / 4096 % 64 + 128) :: UInt8.ofNat (v / 64 % 64 + 128) ::
        UInt8.ofNat (v % 64 + 128) :: rest) =
      (decodeFrom none (pos + 4) rest).map (Char.ofNat v :: ·) := by
  have hcode : ((v / 262144 % 8 * 64 + v / 4096 % 64) * 64 + v / 64 % 64) * 64 + v % 64 = v := by
    omega
  have hleast : (if v / 262144 % 8 = 0 then (0x90 : UInt8) else 0x80).toNat ≤
      v / 4096 % 64 + 128 := by
    split
    · next h => exact show 144 ≤ v / 4096 % 64 + 128 by omega
    · exact Nat.le_add_left 128 _
  have hmost : v / 4096 % 64 + 128 ≤
      (if v / 262144 % 8 = 4 then (0x8F : UInt8) else 0xBF).toNat := by
    split
    · next h => exact show v / 4096 % 64 + 128 ≤ 143 by omega
    · exact show v / 4096 % 64 + 128 ≤ 191 by omega
  have hinner : v / 64 % 64 + 128 ≤ (0xBF : UInt8).toNat :=
    show v / 64 % 64 + 128 ≤ 191 by omega
  rw [decodeFrom_begin (by omega) (by omega) (begin?_four (by omega) pos),
    decodeFrom_inner (by omega) hleast hmost,
    decodeFrom_inner (by omega) (Nat.le_add_left 128 _) hinner, decodeFrom_last (by omega), hcode]

end Widths

/-- The bytes of a character are read as that character, whatever follows. -/
theorem decodeFrom_encodeChar (c : Char) (pos : Nat) (rest : List UInt8) :
    decodeFrom none pos (String.utf8EncodeChar c ++ rest) =
      (decodeFrom none (pos + (String.utf8EncodeChar c).length) rest).map (c :: ·) := by
  have hvalid : c.val.toNat < 0xD800 ∨ 0xDFFF < c.val.toNat ∧ c.val.toNat < 0x110000 := c.valid
  have hchar : c = Char.ofNat c.val.toNat := (Char.ofNat_toNat c).symm
  unfold String.utf8EncodeChar
  generalize c.val.toNat = v at hvalid hchar
  subst hchar
  dsimp only
  split
  · next h => exact decodeFrom_one pos rest h
  split
  · next h₁ h₂ => exact decodeFrom_two pos rest (by omega) h₂
  split
  · next h₁ h₂ h₃ => exact decodeFrom_three pos rest (by omega) h₃ (by omega)
  · next h₁ h₂ h₃ => exact decodeFrom_four pos rest (by omega) (by omega)

/-! ## §4 Texts -/

theorem decodeFrom_encode : ∀ (t : Text) (pos : Nat), decodeFrom none pos (encode t) = .ok t
  | [], _ => rfl
  | c :: t, pos => by
      have hcons : encode (c :: t) = String.utf8EncodeChar c ++ encode t := rfl
      rw [hcons, decodeFrom_encodeChar, decodeFrom_encode t]
      rfl

/-- What was encoded is read back. -/
@[simp] theorem decode_encode (t : Text) : decode (encode t) = .ok t := decodeFrom_encode t 0

end DiagramGraph.Text.Utf8
