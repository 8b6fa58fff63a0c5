import MarkupEditor.Color.Terminal
import MarkupEditor.Terminal.Screen

/-!
# Color pairs

A terminal draws in color pairs that have to be defined first, and has only so
many of them.  Every new color gets the next number; when there is none left,
colors that have no number are drawn as plain text.  Numbers are given out as long
as the terminal has pairs, whether or not its looks can tell all of them apart.
-/

namespace MarkupEditor

structure ColorPairs where
  /-- Whether the terminal has the cube of colors. -/
  extended : Bool
  /-- The numbers of the colors defined, by their text, the latest first. -/
  numbers : List (String × Nat)
  /-- The number of the next color. -/
  next : Nat
deriving DecidableEq

namespace ColorPairs

/-- The pair of line numbers. -/
def lineNumberPair : Nat := 1

/-- The pair of the status line. -/
def statusPair : Nat := 2

/-- The first pair for colors of the text. -/
def firstPair : Nat := 3

def new (extended : Bool) : ColorPairs := ⟨extended, [], firstPair⟩

/-- What asking for a color comes to. -/
structure Drawn where
  pairs : ColorPairs
  look : Look
  /-- The definition of a new pair. -/
  requests : List Request
deriving DecidableEq

/-- The number a terminal knows a color by. -/
def terminalColor (pairs : ColorPairs) (color : Color) : Nat :=
  if pairs.extended then color.cubeIndex else color.nearestBasic

/-- Gives the next number to the text of a color. -/
def define (pairs : ColorPairs) (device : Device) (text : String) (color : Color) : Drawn where
  pairs := { pairs with numbers := (text, pairs.next) :: pairs.numbers, next := pairs.next + 1 }
  look := device.pair pairs.next
  requests := [.definePair pairs.next (pairs.terminalColor color) (-1)]

/-- How to draw a text that is no color, or a color without a number. -/
def lookForNew (pairs : ColorPairs) (terminal : Terminal) (value : Value) :
    Except Failure Drawn :=
  if terminal.pairs ≤ pairs.next then .ok ⟨pairs, .normal, []⟩
  else
    match value with
    | .text text => (Color.ofValue value).map (pairs.define terminal.device text)
    | _ => .error (.invalidColor value)

/-- How to draw text of a color on a terminal; text without a color is drawn plainly. -/
def lookFor (pairs : ColorPairs) (terminal : Terminal) (color : Option Value) :
    Except Failure Drawn :=
  match color with
  | none => .ok ⟨pairs, .normal, []⟩
  | some (.text text) =>
    match pairs.numbers.lookup text with
    | some number => .ok ⟨pairs, terminal.device.pair number, []⟩
    | none => pairs.lookForNew terminal (.text text)
  | some value =>
    match value.aggregate? with
    | some part => .error (.notAKey part)
    | none => pairs.lookForNew terminal value

end ColorPairs

end MarkupEditor
