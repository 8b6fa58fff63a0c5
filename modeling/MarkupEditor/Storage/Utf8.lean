/-!
# Text as bytes

Texts are stored in UTF-8.  Decoding never fails: the longest beginnings of a
character that do not go on as one are each replaced by a replacement character,
and so is every byte that begins none.
-/

namespace MarkupEditor.Utf8

/-- The bytes of a character. -/
def encodeChar (c : Char) : List UInt8 :=
  let n := c.toNat
  let tail (shift : Nat) : UInt8 := UInt8.ofNat (0x80 + (n >>> shift) % 64)
  if n < 0x80 then [UInt8.ofNat n]
  else if n < 0x800 then [UInt8.ofNat (0xC0 + (n >>> 6)), tail 0]
  else if n < 0x10000 then [UInt8.ofNat (0xE0 + (n >>> 12)), tail 6, tail 0]
  else [UInt8.ofNat (0xF0 + (n >>> 18)), tail 12, tail 6, tail 0]

def encode (text : List Char) : List UInt8 := text.flatMap encodeChar

def replacement : Char := Char.ofNat 0xFFFD

/-- What is known of a character whose bytes have not all been read. -/
structure Unfinished where
  /-- How many bytes are missing. -/
  missing : Nat
  /-- The least and the greatest byte that can come next. -/
  low : Nat
  high : Nat
  /-- The bits read so far. -/
  bits : Nat

/-- What the first byte of a character tells. -/
inductive Lead where
  | finished (c : Char)
  | unfinished (rest : Unfinished)
  | malformed

def lead (byte : UInt8) : Lead :=
  let b := byte.toNat
  if b < 0x80 then .finished (Char.ofNat b)
  else if b < 0xC2 then .malformed
  else if b < 0xE0 then .unfinished ⟨1, 0x80, 0xBF, b - 0xC0⟩
  else if b = 0xE0 then .unfinished ⟨2, 0xA0, 0xBF, 0⟩
  else if b = 0xED then .unfinished ⟨2, 0x80, 0x9F, 0xD⟩
  else if b < 0xF0 then .unfinished ⟨2, 0x80, 0xBF, b - 0xE0⟩
  else if b = 0xF0 then .unfinished ⟨3, 0x90, 0xBF, 0⟩
  else if b < 0xF4 then .unfinished ⟨3, 0x80, 0xBF, b - 0xF0⟩
  else if b = 0xF4 then .unfinished ⟨3, 0x80, 0x8F, 4⟩
  else .malformed

/-- Reads a byte where a character begins: the character it is, if any, and what
it leaves unfinished. -/
def readLead (byte : UInt8) : List Char × Option Unfinished :=
  match lead byte with
  | .finished c => ([c], none)
  | .unfinished rest => ([], some rest)
  | .malformed => ([replacement], none)

/-- Reads a byte. -/
def read (state : Option Unfinished) (byte : UInt8) : List Char × Option Unfinished :=
  match state with
  | none => readLead byte
  | some rest =>
    if rest.low ≤ byte.toNat ∧ byte.toNat ≤ rest.high then
      let bits := rest.bits * 64 + byte.toNat % 64
      if rest.missing ≤ 1 then ([Char.ofNat bits], none)
      else ([], some ⟨rest.missing - 1, 0x80, 0xBF, bits⟩)
    else
      let (chars, next) := readLead byte
      (replacement :: chars, next)

def decodeFrom (state : Option Unfinished) : List UInt8 → List Char
  | [] => if state.isSome then [replacement] else []
  | byte :: rest =>
    let (chars, next) := read state byte
    chars ++ decodeFrom next rest

def decode (bytes : List UInt8) : List Char := decodeFrom none bytes

end MarkupEditor.Utf8
