import MarkupEditor.Editor.Keys

/-!
# The editor as a grid of lines

A simpler picture of the editor: lines of text, and a cursor in a row and a
column.  Keys edit the lines directly; nothing is said about offsets, colors or
transactions.
-/

namespace MarkupEditor

structure Grid where
  lines : List (List Char)
  row : Nat
  column : Nat
deriving DecidableEq

namespace Grid

/-- The line of the cursor. -/
def line (grid : Grid) : List Char := grid.lines.getD grid.row []

def lastRow (grid : Grid) : Nat := grid.lines.length - 1

/-- Puts some lines in the place of the rows from one up to another. -/
def replaceRows (grid : Grid) (first stop : Nat) (lines : List (List Char)) : List (List Char) :=
  grid.lines.take first ++ lines ++ grid.lines.drop stop

def insertChars (grid : Grid) (text : List Char) : Grid :=
  { grid with
    lines := grid.replaceRows grid.row (grid.row + 1)
      [grid.line.take grid.column ++ text ++ grid.line.drop grid.column]
    column := grid.column + text.length }

/-- Splits the line of the cursor. -/
def splitLine (grid : Grid) : Grid where
  lines := grid.replaceRows grid.row (grid.row + 1)
    [grid.line.take grid.column, grid.line.drop grid.column]
  row := grid.row + 1
  column := 0

/-- Deletes before the cursor; at the start of a line, joins it with the one before. -/
def backspace (grid : Grid) : Grid :=
  if grid.column ≠ 0 then
    { grid with
      lines := grid.replaceRows grid.row (grid.row + 1)
        [grid.line.take (grid.column - 1) ++ grid.line.drop grid.column]
      column := grid.column - 1 }
  else if grid.row ≠ 0 then
    let above := grid.lines.getD (grid.row - 1) []
    { lines := grid.replaceRows (grid.row - 1) (grid.row + 1) [above ++ grid.line]
      row := grid.row - 1
      column := above.length }
  else grid

/-- Deletes behind the cursor; at the end of a line, joins the next one to it. -/
def delete (grid : Grid) : Grid :=
  if grid.column < grid.line.length then
    { grid with
      lines := grid.replaceRows grid.row (grid.row + 1)
        [grid.line.take grid.column ++ grid.line.drop (grid.column + 1)] }
  else if grid.row < grid.lastRow then
    { grid with
      lines := grid.replaceRows grid.row (grid.row + 2)
        [grid.line ++ grid.lines.getD (grid.row + 1) []] }
  else grid

def left (grid : Grid) : Grid :=
  if grid.column ≠ 0 then { grid with column := grid.column - 1 }
  else if grid.row ≠ 0 then
    { grid with row := grid.row - 1, column := (grid.lines.getD (grid.row - 1) []).length }
  else grid

def right (grid : Grid) : Grid :=
  if grid.column < grid.line.length then { grid with column := grid.column + 1 }
  else if grid.row < grid.lastRow then { grid with row := grid.row + 1, column := 0 }
  else grid

/-- Moves by rows, no further than the first and the last one; the column is
kept as far as the row has it. -/
def moveRows (grid : Grid) (count : Int) : Grid :=
  let row := min (grid.row + count).toNat grid.lastRow
  { grid with row := row, column := min grid.column (grid.lines.getD row []).length }

/-- Does what a key asks for, where a page has so many rows. -/
def act (page : Int) (grid : Grid) : Action → Grid
  | .quit | .save => grid
  | .insert text => if text = ['\n'] then grid.splitLine else grid.insertChars text
  | .delete => grid.delete
  | .backspace => grid.backspace
  | .left => grid.left
  | .right => grid.right
  | .up => grid.moveRows (-1)
  | .down => grid.moveRows 1
  | .pageUp => grid.moveRows (-page)
  | .pageDown => grid.moveRows page
  | .lineStart => { grid with column := 0 }
  | .lineEnd => { grid with column := grid.line.length }

/-- Handles a key; a key that asks for nothing changes nothing. -/
def press (page : Int) (grid : Grid) (key : Int) : Grid :=
  match Action.ofKey? key with
  | some action => grid.act page action
  | none => grid

/-- The text of the grid. -/
def text (grid : Grid) : List Char := ['\n'].intercalate grid.lines

/-- The grid that an editor shows. -/
def ofEditor (editor : Editor) : Grid :=
  let position := Text.positionOf editor.text editor.cursor
  ⟨Text.lines editor.text, position.line, position.column.toNat⟩

end Grid

end MarkupEditor
