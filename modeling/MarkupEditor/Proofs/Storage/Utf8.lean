import MarkupEditor.Storage.Utf8

/-!
# What is encoded is decoded

The first byte of a character tells how many bytes follow it and between which bounds the
second one lies; no character other than those that exist is left out by these bounds.  So
the bytes of a character are read as that character, wherever one begins.
-/

namespace MarkupEditor.Utf8

/-- The byte by which a character goes on, for the lowest six of some bits. -/
def tailByte (bits : Nat) : UInt8 := UInt8.ofNat (0x80 + bits % 64)

theorem toNat_tailByte (bits : Nat) : (tailByte bits).toNat = 0x80 + bits % 64 :=
  UInt8.toNat_ofNat_of_lt' (show 0x80 + bits % 64 < 256 by omega)

/-! ### The bytes of a character -/

/-- The bytes by quotients and remainders. -/
theorem encodeChar_eq (c : Char) :
    encodeChar c =
      if c.toNat < 0x80 then [UInt8.ofNat c.toNat]
      else if c.toNat < 0x800 then [UInt8.ofNat (0xC0 + c.toNat / 64), tailByte c.toNat]
      else if c.toNat < 0x10000 then
        [UInt8.ofNat (0xE0 + c.toNat / 4096), tailByte (c.toNat / 64), tailByte c.toNat]
      else
        [UInt8.ofNat (0xF0 + c.toNat / 262144), tailByte (c.toNat / 4096),
          tailByte (c.toNat / 64), tailByte c.toNat] := by
  simp only [encodeChar, Nat.shiftRight_eq_div_pow, Nat.pow_zero, Nat.div_one]
  rfl

/-- No character has the code of half a character, and none is above the last one. -/
theorem toNat_valid (c : Char) : c.toNat < 0xD800 ∨ 0xDFFF < c.toNat ∧ c.toNat < 0x110000 :=
  c.valid

/-! ### Where a character begins -/

theorem lead_one {n : Nat} (h : n < 0x80) : lead (UInt8.ofNat n) = .finished (Char.ofNat n) := by
  have hbyte : (UInt8.ofNat n).toNat = n :=
    UInt8.toNat_ofNat_of_lt' (show n < 256 by omega)
  simp only [lead, hbyte]
  exact if_pos h

theorem lead_two {n : Nat} (hlow : 0x80 ≤ n) (hhigh : n < 0x800) :
    lead (UInt8.ofNat (0xC0 + n / 64)) = .unfinished ⟨1, 0x80, 0xBF, n / 64⟩ := by
  have hbyte : (UInt8.ofNat (0xC0 + n / 64)).toNat = 0xC0 + n / 64 :=
    UInt8.toNat_ofNat_of_lt' (show 0xC0 + n / 64 < 256 by omega)
  simp only [lead, hbyte]
  rw [if_neg (by omega), if_neg (by omega), if_pos (by omega), Nat.add_sub_cancel_left]

/-- The bounds for the second byte of three. -/
theorem lead_three {n : Nat} (hlow : 0x800 ≤ n) (hhigh : n < 0x10000)
    (hvalid : n < 0xD800 ∨ 0xDFFF < n) :
    ∃ low high, lead (UInt8.ofNat (0xE0 + n / 4096)) = .unfinished ⟨2, low, high, n / 4096⟩ ∧
      low ≤ 0x80 + n / 64 % 64 ∧ 0x80 + n / 64 % 64 ≤ high := by
  have hbyte : (UInt8.ofNat (0xE0 + n / 4096)).toNat = 0xE0 + n / 4096 :=
    UInt8.toNat_ofNat_of_lt' (show 0xE0 + n / 4096 < 256 by omega)
  simp only [lead, hbyte]
  rw [if_neg (by omega), if_neg (by omega), if_neg (by omega)]
  by_cases hfirst : n / 4096 = 0
  · rw [if_pos (by omega)]
    exact ⟨_, _, by rw [hfirst], by omega, by omega⟩
  · rw [if_neg (by omega)]
    by_cases hsurrogate : n / 4096 = 0xD
    · rw [if_pos (by omega)]
      exact ⟨_, _, by rw [hsurrogate], by omega, by omega⟩
    · rw [if_neg (by omega), if_pos (by omega), Nat.add_sub_cancel_left]
      exact ⟨_, _, rfl, by omega, by omega⟩

/-- The bounds for the second byte of four. -/
theorem lead_four {n : Nat} (hlow : 0x10000 ≤ n) (hhigh : n < 0x110000) :
    ∃ low high, lead (UInt8.ofNat (0xF0 + n / 262144)) = .unfinished ⟨3, low, high, n / 262144⟩ ∧
      low ≤ 0x80 + n / 4096 % 64 ∧ 0x80 + n / 4096 % 64 ≤ high := by
  have hbyte : (UInt8.ofNat (0xF0 + n / 262144)).toNat = 0xF0 + n / 262144 :=
    UInt8.toNat_ofNat_of_lt' (show 0xF0 + n / 262144 < 256 by omega)
  simp only [lead, hbyte]
  rw [if_neg (by omega), if_neg (by omega), if_neg (by omega), if_neg (by omega),
    if_neg (by omega), if_neg (by omega)]
  by_cases hfirst : n / 262144 = 0
  · rw [if_pos (by omega)]
    exact ⟨_, _, by rw [hfirst], by omega, by omega⟩
  · rw [if_neg (by omega)]
    by_cases hlast : n / 262144 = 4
    · rw [if_neg (by omega), if_pos (by omega)]
      exact ⟨_, _, by rw [hlast], by omega, by omega⟩
    · rw [if_pos (by omega), Nat.add_sub_cancel_left]
      exact ⟨_, _, rfl, by omega, by omega⟩

theorem decodeFrom_finished {byte : UInt8} {c : Char} (h : lead byte = .finished c)
    (rest : List UInt8) : decodeFrom none (byte :: rest) = c :: decodeFrom none rest := by
  rw [decodeFrom, read, readLead, h]
  rfl

theorem decodeFrom_unfinished {byte : UInt8} {begun : Unfinished}
    (h : lead byte = .unfinished begun) (rest : List UInt8) :
    decodeFrom none (byte :: rest) = decodeFrom (some begun) rest := by
  rw [decodeFrom, read, readLead, h]
  rfl

/-! ### Where a character goes on -/

/-- A byte that ends a character. -/
theorem decodeFrom_lastByte {low high bits n : Nat} (hlow : low ≤ 0x80 + n % 64)
    (hhigh : 0x80 + n % 64 ≤ high) (rest : List UInt8) :
    decodeFrom (some ⟨1, low, high, bits⟩) (tailByte n :: rest) =
      Char.ofNat (bits * 64 + n % 64) :: decodeFrom none rest := by
  have hbits : (0x80 + n % 64) % 64 = n % 64 := by omega
  simp only [decodeFrom, read, toNat_tailByte, hbits]
  rw [if_pos ⟨hlow, hhigh⟩]
  rfl

/-- A byte that is followed by more of its character. -/
theorem decodeFrom_innerByte {missing low high bits n : Nat} (hlow : low ≤ 0x80 + n % 64)
    (hhigh : 0x80 + n % 64 ≤ high) (rest : List UInt8) :
    decodeFrom (some ⟨missing + 2, low, high, bits⟩) (tailByte n :: rest) =
      decodeFrom (some ⟨missing + 1, 0x80, 0xBF, bits * 64 + n % 64⟩) rest := by
  have hbits : (0x80 + n % 64) % 64 = n % 64 := by omega
  have hmissing : ¬ missing + 2 ≤ 1 := by omega
  simp only [decodeFrom, read, toNat_tailByte, hbits]
  rw [if_pos ⟨hlow, hhigh⟩, if_neg hmissing]
  rfl

/-! ### Characters and texts -/

/-- The cases are the numbers of bytes. -/
theorem decodeFrom_encodeChar (c : Char) (rest : List UInt8) :
    decodeFrom none (encodeChar c ++ rest) = c :: decodeFrom none rest := by
  have hcode : Char.ofNat c.toNat = c := Char.ofNat_toNat c
  by_cases hone : c.toNat < 0x80
  · rw [encodeChar_eq, if_pos hone, List.singleton_append, decodeFrom_finished (lead_one hone),
      hcode]
  by_cases htwo : c.toNat < 0x800
  · have hbits : c.toNat / 64 * 64 + c.toNat % 64 = c.toNat := by omega
    rw [encodeChar_eq, if_neg hone, if_pos htwo, List.cons_append, List.singleton_append,
      decodeFrom_unfinished (lead_two (by omega) htwo),
      decodeFrom_lastByte (by omega) (by omega), hbits, hcode]
  by_cases hthree : c.toNat < 0x10000
  · have hvalid : c.toNat < 0xD800 ∨ 0xDFFF < c.toNat := (toNat_valid c).imp id And.left
    have hbits : (c.toNat / 4096 * 64 + c.toNat / 64 % 64) * 64 + c.toNat % 64 = c.toNat := by
      omega
    obtain ⟨low, high, hlead, hlow, hhigh⟩ := lead_three (by omega) hthree hvalid
    rw [encodeChar_eq, if_neg hone, if_neg htwo, if_pos hthree, List.cons_append,
      List.cons_append, List.singleton_append, decodeFrom_unfinished hlead,
      decodeFrom_innerByte hlow hhigh, decodeFrom_lastByte (by omega) (by omega), hbits, hcode]
  · have hlast : c.toNat < 0x110000 := by
      have hvalid := toNat_valid c
      omega
    have hbits : ((c.toNat / 262144 * 64 + c.toNat / 4096 % 64) * 64 + c.toNat / 64 % 64) * 64 +
        c.toNat % 64 = c.toNat := by
      omega
    obtain ⟨low, high, hlead, hlow, hhigh⟩ := lead_four (by omega) hlast
    rw [encodeChar_eq, if_neg hone, if_neg htwo, if_neg hthree, List.cons_append,
      List.cons_append, List.cons_append, List.singleton_append, decodeFrom_unfinished hlead,
      decodeFrom_innerByte hlow hhigh, decodeFrom_innerByte (by omega) (by omega),
      decodeFrom_lastByte (by omega) (by omega), hbits, hcode]

theorem decode_encode (text : List Char) : decode (encode text) = text := by
  induction text with
  | nil => rfl
  | cons c rest ih =>
      rw [encode, List.flatMap_cons, decode, decodeFrom_encodeChar]
      exact congrArg (c :: ·) ih

end MarkupEditor.Utf8
