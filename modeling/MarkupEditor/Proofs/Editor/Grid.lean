import MarkupEditor.Editor.Grid
import MarkupEditor.Proofs.Text.Caret

/-!
# The grid around a place

The grid that an editor shows is made of what lies around its cursor.  Each edit and
each movement of a grid changes only what lies next to the cursor, or goes to another
row and column of the same lines.
-/

namespace MarkupEditor

namespace Grid

open Text (Caret)

/-- The grid with the cursor at a place. -/
def ofCaret (caret : Caret) : Grid where
  lines := caret.above ++ (caret.left ++ caret.right) :: caret.below
  row := caret.above.length
  column := caret.left.length

theorem ofEditor_eq_ofCaret {editor : Editor} {caret : Caret} {offset : Nat}
    (h : caret.Marks editor.text offset) (hcursor : editor.cursor = offset) :
    ofEditor editor = ofCaret caret := by
  rw [ofEditor, hcursor, h.positionOf_eq, h.lines_eq, Int.toNat_natCast]
  rfl

/-! ### Edits -/

theorem insertChars_ofCaret (caret : Caret) (text : List Char) :
    (ofCaret caret).insertChars text = ofCaret { caret with left := caret.left ++ text } := by
  simp [insertChars, ofCaret, line, replaceRows, List.drop_append]

theorem splitLine_ofCaret (caret : Caret) :
    (ofCaret caret).splitLine =
      ofCaret ⟨caret.above ++ [caret.left], [], caret.right, caret.below⟩ := by
  simp [splitLine, ofCaret, line, replaceRows, List.drop_append]

variable {here next gone : Caret}

theorem delete_of_around (h : Caret.Around here next gone) :
    (ofCaret here).delete = ofCaret gone := by
  cases h with
  | char above left c right below =>
      simp [delete, ofCaret, line, replaceRows, List.drop_append]
  | lineFeed above left next below =>
      simp [delete, ofCaret, line, lastRow, replaceRows, List.drop_append]

theorem backspace_of_around (h : Caret.Around here next gone) :
    (ofCaret next).backspace = ofCaret gone := by
  cases h with
  | char above left c right below =>
      simp [backspace, ofCaret, line, replaceRows, List.drop_append]
  | lineFeed above left next below =>
      have hbehind : above.length + 1 + 1 - above.length = 2 := by omega
      have hnone : above.drop (above.length + 1 + 1) = [] :=
        List.drop_eq_nil_of_le (by omega)
      simp [backspace, ofCaret, line, replaceRows, List.drop_append, hbehind, hnone]

/-- At the end of the text nothing is deleted. -/
theorem delete_at_end {caret : Caret} (h : caret.right = [] ∧ caret.below = []) :
    (ofCaret caret).delete = ofCaret caret := by
  simp [delete, ofCaret, line, lastRow, h.1, h.2]

theorem backspace_at_start {caret : Caret} (h : caret.above = [] ∧ caret.left = []) :
    (ofCaret caret).backspace = ofCaret caret := by
  simp [backspace, ofCaret, h.1, h.2]

/-! ### Movements -/

theorem right_of_around (h : Caret.Around here next gone) :
    (ofCaret here).right = ofCaret next := by
  cases h with
  | char above left c right below => simp [Grid.right, ofCaret, line]
  | lineFeed above left next below => simp [Grid.right, ofCaret, line, lastRow]

theorem left_of_around (h : Caret.Around here next gone) :
    (ofCaret next).left = ofCaret here := by
  cases h with
  | char above left c right below => simp [Grid.left, ofCaret]
  | lineFeed above left next below => simp [Grid.left, ofCaret]

theorem right_at_end {caret : Caret} (h : caret.right = [] ∧ caret.below = []) :
    (ofCaret caret).right = ofCaret caret := by
  simp [Grid.right, ofCaret, line, lastRow, h.1, h.2]

theorem left_at_start {caret : Caret} (h : caret.above = [] ∧ caret.left = []) :
    (ofCaret caret).left = ofCaret caret := by
  simp [Grid.left, ofCaret, h.1, h.2]

/-- A row and column of a text, as a grid. -/
theorem ofCaret_caretAt {text : List Char} {row column : Nat}
    (hrow : row < (Text.lines text).length)
    (hcolumn : column ≤ ((Text.lines text).getD row []).length) :
    ofCaret (Text.caretAt text row column) = ⟨Text.lines text, row, column⟩ := by
  have hlines : (Text.lines text).take row ++
      (Text.lines text).getD row [] :: (Text.lines text).drop (row + 1) = Text.lines text := by
    rw [Text.getD_lines hrow, ← List.drop_eq_getElem_cons hrow, List.take_append_drop]
  simp only [ofCaret, Text.caretAt, List.take_append_drop, hlines,
    List.length_take_of_le hcolumn, List.length_take_of_le (Nat.le_of_lt hrow)]

end Grid

end MarkupEditor
