import MarkupEditor.Number.Binary64

/-!
# Decimal notation of doubles

A double is written with the fewest significant digits that read back to it,
and among those with the digits nearest to it, a tie going to the even last
digit.  Decimal exponents from -4 to 15 are written positionally, all others in
scientific notation.
-/

namespace MarkupEditor.Binary64

/-- The power of ten with an integer exponent. -/
def tenTo (exponent : Int) : Rat :=
  if 0 ≤ exponent then (10 : Rat) ^ exponent.toNat else 1 / (10 : Rat) ^ (-exponent).toNat

/-- The decimal exponent of the leading digit of a positive rational.  The
lengths of numerator and denominator in bits tell it up to one. -/
def leadingExponent (magnitude : Rat) : Int :=
  let bits : Int := (magnitude.num.natAbs.log2 : Int) - magnitude.den.log2
  let estimate := (bits * 30103).fdiv 100000
  if tenTo (estimate + 1) ≤ magnitude then estimate + 1
  else if tenTo estimate ≤ magnitude then estimate
  else estimate - 1

/-- The numbers that read back to a double: those between the midpoints to its
two neighbours, with the midpoints or without them. -/
structure Neighborhood where
  low : Rat
  high : Rat
  closed : Bool

namespace Neighborhood

/-- The neighborhood of a positive double.  Below a power of two the doubles lie
closer; a midpoint reads back to the even significand. -/
def of (magnitude : Rat) : Neighborhood :=
  let exponent := spacingExponent magnitude
  let significand := (magnitude / twoTo exponent).floor
  let half := twoTo (exponent - 1)
  let closer := significand = Int.pow 2 52 ∧ -1074 < exponent
  ⟨magnitude - (if closer then half / 2 else half), magnitude + half, significand % 2 = 0⟩

def contains (neighborhood : Neighborhood) (value : Rat) : Bool :=
  if neighborhood.closed then neighborhood.low ≤ value && value ≤ neighborhood.high
  else neighborhood.low < value && value < neighborhood.high

end Neighborhood

/-- The significand, on the decimal grid with steps of a power of ten, that reads
back to a number; of two candidates the one nearer to it, and of two equally near
ones the even one. -/
def onGrid? (magnitude : Rat) (neighborhood : Neighborhood) (exponent : Int) : Option Nat :=
  let step := tenTo exponent
  let position := magnitude / step
  let below := position.floor
  let above := below + 1
  match neighborhood.contains (below * step), neighborhood.contains (above * step) with
  | true, true => some (nearestInteger position).toNat
  | true, false => some below.toNat
  | false, true => some above.toNat
  | false, false => none

/-- The shortest significand and exponent that read back to a positive double. -/
def shortest (magnitude : Rat) : Nat × Int :=
  let leading := leadingExponent magnitude
  let neighborhood := Neighborhood.of magnitude
  ((List.range 17).findSome? fun (behind : Nat) =>
    let exponent := leading - behind
    (onGrid? magnitude neighborhood exponent).map (·, exponent)).getD (magnitude.floor.toNat, 0)

/-- The digits of a significand without its trailing zeros. -/
def trimmedDigits (significand : Nat) : List Char :=
  ((Nat.toDigits 10 significand).reverse.dropWhile (· == '0')).reverse

/-- Lays out digits `d₀d₁…` standing for `d₀.d₁… · 10 ^ exponent`. -/
def layOut (digits : List Char) (exponent : Int) : String :=
  if -4 ≤ exponent ∧ exponent < 0 then
    String.ofList (['0', '.'] ++ List.replicate (-exponent - 1).toNat '0' ++ digits)
  else if 0 ≤ exponent ∧ exponent < 16 then
    let whole := exponent.toNat + 1
    let fraction := digits.drop whole
    String.ofList (digits.take whole ++ List.replicate (whole - digits.length) '0' ++ ['.']
      ++ if fraction.isEmpty then ['0'] else fraction)
  else
    let size := toString exponent.natAbs
    let fraction := digits.drop 1
    String.ofList (digits.take 1 ++ (if fraction.isEmpty then [] else '.' :: fraction))
      ++ (if exponent < 0 then "e-" else "e+")
      ++ (if size.length < 2 then "0" ++ size else size)

def renderMagnitude (magnitude : Rat) : String :=
  if magnitude = 0 then "0.0"
  else
    let (significand, exponent) := shortest magnitude
    layOut (trimmedDigits significand) (exponent + (Nat.toDigits 10 significand).length - 1)

/-- The decimal text of a double. -/
def render : Binary64 → String
  | .finite value => if value < 0 then "-" ++ renderMagnitude (-value) else renderMagnitude value
  | .negativeZero => "-0.0"
  | .infinite negative => if negative then "-inf" else "inf"
  | .nan _ => "nan"

/-- The number a run of decimal digits stands for. -/
def digitsValue (digits : List Char) : Nat :=
  digits.foldl (fun value digit => 10 * value + (digit.toNat - '0'.toNat)) 0

/-- Reads an optional sign: whether it is a minus, and the rest. -/
def takeSign : List Char → Bool × List Char
  | '-' :: rest => (true, rest)
  | '+' :: rest => (false, rest)
  | rest => (false, rest)

/-- Reads an exponent part such as `e+30`; no exponent part stands for zero. -/
def readExponent? : List Char → Option Int
  | [] => some 0
  | mark :: rest =>
    let (negative, digits) := takeSign rest
    if (mark = 'e' ∨ mark = 'E') ∧ digits ≠ [] ∧ digits.all Char.isDigit then
      some (if negative then -(digitsValue digits : Int) else digitsValue digits)
    else none

/-- Reads the decimal text at a place, for the first time. -/
def read? (place : Nat) (text : String) : Option Binary64 :=
  let (negative, body) := takeSign text.toList
  if body = "inf".toList then some (.infinite negative)
  else if body = "nan".toList then some (.nan ⟨place, 0⟩)
  else
    let whole := body.takeWhile Char.isDigit
    let afterWhole := body.dropWhile Char.isDigit
    let (fraction, tail) := match afterWhole with
      | '.' :: rest => (rest.takeWhile Char.isDigit, rest.dropWhile Char.isDigit)
      | rest => ([], rest)
    if whole.isEmpty && fraction.isEmpty then none
    else (readExponent? tail).map fun exponent =>
      nearest negative (digitsValue (whole ++ fraction) * tenTo (exponent - fraction.length))

end MarkupEditor.Binary64
