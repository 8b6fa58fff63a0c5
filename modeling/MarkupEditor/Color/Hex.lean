import MarkupEditor.Failure

/-!
# Hexadecimal colors

A color is written as a number sign and six hexadecimal digits, or three where
each stands for a pair of equal ones.  It is always shown with six upper-case
digits.
-/

namespace MarkupEditor

structure Color where
  red : Fin 256
  green : Fin 256
  blue : Fin 256
deriving DecidableEq

namespace Color

/-- The component that a byte stands for. -/
def component (byte : Nat) : Fin 256 := ⟨byte % 256, by omega⟩

def ofBytes (red green blue : Nat) : Color := ⟨component red, component green, component blue⟩

/-- The value of a hexadecimal digit of either case. -/
def digitValue? (c : Char) : Option (Fin 16) :=
  if h : 0x30 ≤ c.toNat ∧ c.toNat ≤ 0x39 then some ⟨c.toNat - 0x30, by omega⟩
  else if h : 0x61 ≤ c.toNat ∧ c.toNat ≤ 0x66 then some ⟨c.toNat - 0x61 + 10, by omega⟩
  else if h : 0x41 ≤ c.toNat ∧ c.toNat ≤ 0x46 then some ⟨c.toNat - 0x41 + 10, by omega⟩
  else none

/-- The upper-case hexadecimal digit of a value. -/
def digit (value : Fin 16) : Char :=
  Char.ofNat (if value.val < 10 then 0x30 + value.val else 0x41 + (value.val - 10))

/-- The number that two hexadecimal digits stand for. -/
def pair (high low : Fin 16) : Fin 256 := ⟨16 * high.val + low.val, by omega⟩

/-- The two hexadecimal digits of a component. -/
def componentDigits (component : Fin 256) : List Char :=
  [digit ⟨component.val / 16, by omega⟩, digit ⟨component.val % 16, by omega⟩]

/-- The color of some hexadecimal digits. -/
def ofDigits? : List (Fin 16) → Option Color
  | [r, g, b] => some ⟨pair r r, pair g g, pair b b⟩
  | [r, r', g, g', b, b'] => some ⟨pair r r', pair g g', pair b b'⟩
  | _ => none

def ofChars? : List Char → Option Color
  | '#' :: digits => (digits.mapM digitValue?).bind ofDigits?
  | _ => none

/-- The color a text denotes. -/
def ofText? (text : String) : Option Color := ofChars? text.toList

/-- The color an attribute value denotes: only texts denote colors. -/
def ofValue (value : Value) : Except Failure Color :=
  match value with
  | .text text =>
    match ofText? text with
    | some color => .ok color
    | none => .error (.invalidColor value)
  | _ => .error (.invalidColor value)

/-- The six digits of a color. -/
def digits (color : Color) : List Char :=
  componentDigits color.red ++ componentDigits color.green ++ componentDigits color.blue

/-- The one way a color is written. -/
def toText (color : Color) : String := String.ofList ('#' :: color.digits)

/-- The shortest way a color can be written: three digits where six are pairs. -/
def toShortText (color : Color) : String :=
  match color.digits with
  | [r, r', g, g', b, b'] =>
    if r = r' ∧ g = g' ∧ b = b' then String.ofList ['#', r, g, b] else color.toText
  | _ => color.toText

/-- The square of the distance between two colors. -/
def distance (left right : Color) : Nat :=
  let square (a b : Fin 256) : Nat :=
    let difference := ((a.val : Int) - b.val).natAbs
    difference * difference
  square left.red right.red + square left.green right.green + square left.blue right.blue

end Color

/-- The position of the color in a list that is nearest to a color; of several
equally near ones, the first. -/
def nearestIn (color : Color) : List Color → Nat
  | [] => 0
  | first :: rest => go 0 (color.distance first) 1 rest
where
  go (best bestDistance position : Nat) : List Color → Nat
    | [] => best
    | next :: rest =>
      if color.distance next < bestDistance then
        go position (color.distance next) (position + 1) rest
      else go best bestDistance (position + 1) rest

end MarkupEditor
