import MarkupEditor.Text.Unassigned

/-!
# Quoted text

Text inside a message stands between quotes: single ones, unless it holds a
single quote and no double quote.  The quote in use and the backslash are
escaped by a backslash; characters without a visible form of their own are
written as escape sequences.
-/

namespace MarkupEditor.Quoted

/-- First and last code points of the stretches of characters that have no visible
form: controls, format characters, private characters, separators, and all
spaces but the plain one, as of version 14 of Unicode. -/
def invisibleRanges : List (Nat × Nat) :=
  [(0x0, 0x1F), (0x7F, 0xA0), (0xAD, 0xAD), (0x600, 0x605), (0x61C, 0x61C), (0x6DD, 0x6DD),
   (0x70F, 0x70F), (0x890, 0x891), (0x8E2, 0x8E2), (0x1680, 0x1680), (0x180E, 0x180E),
   (0x2000, 0x200F), (0x2028, 0x202F), (0x205F, 0x2064), (0x2066, 0x206F), (0x3000, 0x3000),
   (0xE000, 0xF8FF), (0xFEFF, 0xFEFF), (0xFFF9, 0xFFFB), (0x110BD, 0x110BD), (0x110CD, 0x110CD),
   (0x13430, 0x13438), (0x1BCA0, 0x1BCA3), (0x1D173, 0x1D17A), (0xE0001, 0xE0001),
   (0xE0020, 0xE007F), (0xF0000, 0xFFFFD), (0x100000, 0x10FFFD)]

/-- Whether a character has no visible form; where there is no character, there
is none either. -/
def isInvisible (c : Char) : Bool :=
  (invisibleRanges.any fun (first, last) => first ≤ c.toNat && c.toNat ≤ last) || isUnassigned c

/-- The hexadecimal digits of a number, padded with zeros to a width. -/
def hexDigits (width n : Nat) : List Char :=
  let digits := Nat.toDigits 16 n
  List.replicate (width - digits.length) '0' ++ digits

/-- The escape sequence of an invisible character: as short as its code point allows. -/
def escapeSequence (c : Char) : List Char :=
  if c = '\n' then ['\\', 'n']
  else if c = '\r' then ['\\', 'r']
  else if c = '\t' then ['\\', 't']
  else if c.toNat < 0x100 then '\\' :: 'x' :: hexDigits 2 c.toNat
  else if c.toNat < 0x10000 then '\\' :: 'u' :: hexDigits 4 c.toNat
  else '\\' :: 'U' :: hexDigits 8 c.toNat

/-- The quote a text is put between. -/
def quoteFor (text : List Char) : Char :=
  if text.contains '\'' && !text.contains '"' then '"' else '\''

def encodeChar (quote c : Char) : List Char :=
  if c = quote ∨ c = '\\' then ['\\', c]
  else if isInvisible c then escapeSequence c
  else [c]

def encode (text : List Char) : List Char :=
  let quote := quoteFor text
  quote :: text.flatMap (encodeChar quote) ++ [quote]

end MarkupEditor.Quoted

namespace MarkupEditor

/-- A text between quotes, as messages show it. -/
def quoted (text : String) : String := String.ofList (Quoted.encode text.toList)

end MarkupEditor
