/-!
# Lines and columns

A text is a list of lines with a line feed between any two neighbours, so it
always has at least one line.  An offset into the text and a line with a column
name the same places.
-/

namespace MarkupEditor.Text

/-- The lines of a text, without their line feeds. -/
def lines : List Char → List (List Char)
  | [] => [[]]
  | c :: rest =>
    if c = '\n' then [] :: lines rest
    else
      match lines rest with
      | [] => [[c]]
      | first :: others => (c :: first) :: others

/-- The items before a bound; a negative bound counts back from the end. -/
def before {α : Type} (items : List α) (bound : Int) : List α :=
  if 0 ≤ bound then items.take bound.toNat else items.take (items.length - bound.natAbs)

/-- The item at an index; a negative index counts back from the end. -/
def itemAt? {α : Type} (items : Array α) (index : Int) : Option α :=
  if 0 ≤ index then items[index.toNat]?
  else if index.natAbs ≤ items.size then items[items.size - index.natAbs]?
  else none

/-- The number of characters behind the last line feed of a text. -/
def lastLineLength (text : List Char) : Nat :=
  (text.reverse.takeWhile (· != '\n')).length

/-- A text with so many characters from an offset on replaced by new ones. -/
def replaceSpan : (start length : Nat) → (new text : List Char) → List Char
  | start + 1, length, new, c :: rest => c :: replaceSpan start length new rest
  | _ + 1, _, new, [] => new
  | 0, length, new, text => new ++ text.drop length

theorem replaceSpan_eq (start length : Nat) (new text : List Char) :
    replaceSpan start length new text =
      text.take start ++ new ++ text.drop (start + length) := by
  fun_induction replaceSpan start length new text with
  | case1 start length new c rest ih => simp [ih, Nat.add_right_comm]
  | case2 => simp
  | case3 => simp

structure Position where
  line : Nat
  column : Int
deriving DecidableEq

/-- The line and column of an offset.  An offset outside of the text gets the
line of the nearest end, and a column as far outside. -/
def positionOf (text : List Char) (offset : Int) : Position :=
  let passed := before text offset
  ⟨passed.count '\n', offset - ((passed.length - lastLineLength passed : Nat) : Int)⟩

/-- An integer brought into the range from zero to a bound. -/
def clamp (value : Int) (bound : Nat) : Nat := min value.toNat bound

/-- The number of characters that some lines take up with their line feeds. -/
def extent : List (List Char) → Nat
  | [] => 0
  | line :: rest => line.length + 1 + extent rest

/-- The offset of a line and column, both brought into the text. -/
def offsetOf (text : List Char) (line column : Int) : Nat :=
  let allLines := lines text
  let row := clamp line (allLines.length - 1)
  extent (allLines.take row) + clamp column (allLines.getD row []).length

theorem lines_ne_nil (text : List Char) : lines text ≠ [] := by
  cases text with
  | nil => simp [lines]
  | cons c rest =>
    rw [lines]
    split
    · simp
    · split <;> simp

end MarkupEditor.Text
