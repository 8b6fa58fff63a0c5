/-!
# Double-precision numbers

A finite double is kept as the exact rational it stands for, so that equality
with integers is equality of rationals and no rounding hides in a comparison.
Rounding happens once, when a number is read: to the nearest double, a tie to
the even significand.
-/

namespace MarkupEditor

/-- One reading of a number: the place of its text, and which time that text
was read. -/
structure Occurrence where
  place : Nat
  turn : Nat
deriving DecidableEq

/-- A double-precision number.  A value that is not a number carries the
occurrence it was read from, because it equals nothing but itself. -/
inductive Binary64 where
  | finite (value : Rat)
  | negativeZero
  | infinite (negative : Bool)
  | nan (occurrence : Occurrence)
deriving DecidableEq

namespace Binary64

/-- The power of two with an integer exponent. -/
def twoTo (exponent : Int) : Rat :=
  if 0 ≤ exponent then (2 : Rat) ^ exponent.toNat else 1 / (2 : Rat) ^ (-exponent).toNat

/-- The exponent of the spacing of doubles around a positive rational: the
significand has 53 bits, unless the number is below the normal range. -/
def spacingExponent (magnitude : Rat) : Int :=
  let estimate : Int := (magnitude.num.natAbs.log2 : Int) - magnitude.den.log2 - 52
  let exponent := if magnitude / twoTo estimate < twoTo 52 then estimate - 1 else estimate
  max exponent (-1074)

/-- The integer nearest to a rational, a tie going to the even one. -/
def nearestInteger (value : Rat) : Int :=
  let below := value.floor
  let rest := value - below
  if rest < 1 / 2 then below
  else if 1 / 2 < rest then below + 1
  else if below % 2 = 0 then below else below + 1

/-- The double nearest to a rational of the given sign and magnitude. -/
def nearest (negative : Bool) (magnitude : Rat) : Binary64 :=
  if magnitude = 0 then
    if negative then .negativeZero else .finite 0
  else
    let exponent := spacingExponent magnitude
    let rounded : Rat := nearestInteger (magnitude / twoTo exponent) * twoTo exponent
    if twoTo 1024 ≤ rounded then .infinite negative
    else if rounded = 0 then
      if negative then .negativeZero else .finite 0
    else .finite (if negative then -rounded else rounded)

/-- The number that the same text gives when it is read another time. -/
def reread (turn : Nat) : Binary64 → Binary64
  | .nan occurrence => .nan { occurrence with turn := turn }
  | number => number

end Binary64

end MarkupEditor
