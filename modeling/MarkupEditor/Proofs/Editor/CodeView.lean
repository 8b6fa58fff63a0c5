import MarkupEditor.Proofs.Buffer.PassAttributes
import MarkupEditor.Proofs.Editor.Painting
import MarkupEditor.Proofs.Text.Extent

/-!
# The code view

The rows of the code view show lines one behind another, and the colors of the text keep
step with them: the line feed behind a line has a color, too, and is passed over.
-/

namespace MarkupEditor

/-! ### Rows -/

/-- The colors of the characters of a line, out of those of the whole text. -/
def rowColors (text : List Char) (colors : List (Option Value)) (number : Nat) :
    List (Option Value) :=
  (colors.drop (Text.lineStart text number)).take (Text.lineAt text number).length

/-- The segments that show a line where there are so many columns. -/
def rowSegments (text : List Char) (colors : List (Option Value)) (width : Int) (number : Nat) :
    List Segment :=
  Segment.cut width.toNat (Value.groups (rowColors text colors number)) (Text.lineAt text number)

/-- The call that shows the cursor in a row, if it is in the line of that row. -/
def rowCursor (pane : Pane) (text : List Char) (cursor : Int) (row number : Nat) : List Call :=
  let column := cursor - Text.lineStart text number
  if 0 ≤ column ∧ column ≤ (Text.lineAt text number).length then
    pane.fit row column [(Text.lineAt text number).getD column.toNat ' '] .reverse
  else []

section

variable {pane : Pane} {text : List Char} {row number : Nat}

theorem look_of_mem_rowCursor {cursor : Int} {call : Call}
    (h : call ∈ rowCursor pane text cursor row number) : call.look = Look.reverse := by
  rw [rowCursor] at h
  split at h
  · rw [Pane.fit] at h
    split at h
    · exact absurd h List.not_mem_nil
    · rw [List.mem_singleton.1 h]
  · exact absurd h List.not_mem_nil

/-- The call that shows a place, if there is such a column. -/
def caretCalls (width : Int) (text : List Char) (caret : Text.Caret) (row : Nat) : List Call :=
  if caret.left.length < width then
    [⟨row, caret.left.length,
      [(Text.lineAt text caret.above.length).getD caret.left.length ' '], .reverse⟩]
  else []

theorem rowCursor_eq {caret : Text.Caret} {offset : Nat} (hmarks : caret.Marks text offset)
    (hrow : row < pane.height) (hnumber : number < (Text.lines text).length) :
    rowCursor pane text offset row number =
      if number = caret.above.length then caretCalls pane.width text caret row else [] := by
  have hwithin := hmarks.within_iff hnumber
  rw [rowCursor]
  by_cases hown : number = caret.above.length
  · have hinside := hwithin.2 hown
    have hcolumn : (offset : Int) - Text.lineStart text number = caret.left.length := by
      have hoffset := hmarks.offset_eq_lineStart_add
      rw [hown]
      omega
    rw [if_pos hown, if_pos (by omega), hcolumn, Pane.fit_eq hrow, caretCalls, hown,
      Int.toNat_natCast]
    by_cases hroom : (caret.left.length : Int) < pane.width
    · have hwhole (cell : Char) : [cell].take (pane.width - caret.left.length).toNat = [cell] := by
        apply List.take_of_length_le
        rw [List.length_singleton]
        omega
      rw [if_neg (by omega), if_pos hroom, hwhole]
    · rw [if_pos (by omega), if_neg hroom]
  · rw [if_neg hown, if_neg fun hcolumn => hown (hwithin.1 (by omega))]

end

/-- Colors of a palette. -/
def Palette.Shades (palette : Palette) (colors : List (Option Value)) : Prop :=
  ∀ color ∈ colors, ∃ layer, color = palette.value? layer

/-- Colors of a palette are the same where they are alike. -/
theorem Palette.Shades.exact {palette : Palette} {colors : List (Option Value)}
    (h : palette.Shades colors) : Value.Exact colors := by
  intro left hleft right hright halike
  obtain ⟨layer, rfl⟩ := h left hleft
  obtain ⟨layer', rfl⟩ := h right hright
  exact Value.map_text_eq palette.text halike

namespace CodeView

/-- A view of a text with the colors of its characters, from a line on. -/
structure Of (view : CodeView) (text : List Char) (shown : List (Option Value)) (top : Nat) :
    Prop where
  lines : view.lines = (Text.lines text).toArray
  colors : view.colors = shown.toArray
  topLine : view.topLine = top
  length : shown.length = text.length

variable {view : CodeView} {palette : Palette} {text : List Char} {shown : List (Option Value)}
  {top : Nat}

theorem length_rowColors (hlength : shown.length = text.length) {number : Nat}
    (hnumber : number < (Text.lines text).length) :
    (rowColors text shown number).length = (Text.lineAt text number).length := by
  have hfits := Text.lineStart_add_le hnumber
  rw [rowColors, List.length_take, List.length_drop, hlength]
  omega

theorem shades_rowColors (h : palette.Shades shown) (text : List Char) (number : Nat) :
    palette.Shades (rowColors text shown number) :=
  fun color hcolor => h color (List.mem_of_mem_drop (List.mem_of_mem_take hcolor))

/-- A row of the view shows its line, as far as there are columns. -/
theorem show_rowSegments (h : palette.Shades shown) (hlength : shown.length = text.length)
    (width : Int) {number : Nat} (hnumber : number < (Text.lines text).length) :
    Segment.Show (rowSegments text shown width number)
      ((Text.lineAt text number).take width.toNat)
      ((rowColors text shown number).take width.toNat) :=
  Segment.show_cut_groups _ (shades_rowColors h text number).exact
    (length_rowColors hlength hnumber)

variable {canvas : Canvas}

/-- A line and the cursor in it.  The cell of the cursor is taken with the line. -/
theorem paints_row (h : palette.Shades shown) (hlength : shown.length = text.length)
    {row number : Nat} (hrow : row < canvas.pane.height)
    (hnumber : number < (Text.lines text).length) (cursor : Int) (pairs : ColorPairs) :
    ((canvas.paintLine row (Text.lineAt text number) (rowColors text shown number) pairs).andThen
      (canvas.paintCursor row (Text.lineAt text number)
        (cursor - Text.lineStart text number))).Paints palette canvas.terminal pairs
      ((Text.lineAt text number).take canvas.pane.width.toNat)
      ((Value.groups (rowColors text shown number)).map Prod.fst) fun look =>
        Segment.calls look row 0 (rowSegments text shown canvas.pane.width number) ++
          rowCursor canvas.pane text cursor row number := by
  have hshades := shades_rowColors h text number
  have hline := canvas.paints_paintLine hrow hshades.exact (length_rowColors hlength hnumber)
    hshades pairs
  have hcursor := canvas.paints_paintCursor palette hrow (Text.lineAt text number)
    (cursor - Text.lineStart text number)
    (canvas.paintLine row (Text.lineAt text number) (rowColors text shown number) pairs).pairs
  have hboth := hline.andThen hcursor
  rw [List.append_nil] at hboth
  exact hboth.of_takes_eq (Canvas.takes_append_cursorText _ _ _ _).symm

/-- The rows from one on that have a line to show. -/
def rowsFrom (text : List Char) (top row rows : Nat) : List Nat :=
  List.range' row (min rows ((Text.lines text).length - (top + row)))

theorem rowsFrom_nil {row : Nat} (hrow : ¬ top + row < (Text.lines text).length) (rows : Nat) :
    rowsFrom text top row rows = [] := by
  rw [rowsFrom, Nat.sub_eq_zero_of_le (Nat.not_lt.1 hrow), Nat.min_zero]
  rfl

theorem rowsFrom_cons {row : Nat} (hrow : top + row < (Text.lines text).length) (rows : Nat) :
    rowsFrom text top row (rows + 1) = row :: rowsFrom text top (row + 1) rows := by
  have hcount : (Text.lines text).length - (top + row) =
      (Text.lines text).length - (top + (row + 1)) + 1 := by omega
  rw [rowsFrom, hcount, Nat.succ_min_succ, List.range'_succ]
  rfl

/-- One row more: its line and the cursor in it, or none where the lines have come to an
end. -/
theorem draw_succ (view : CodeView) (canvas : Canvas)
    (hlines : view.lines = (Text.lines text).toArray) (htop : view.topLine = top)
    (rows row : Nat) (pairs : ColorPairs) :
    view.draw canvas (rows + 1) row (Text.lineStart text (top + row)) pairs =
      if top + row < (Text.lines text).length then
        ((canvas.paintLine row (Text.lineAt text (top + row))
            (view.colors.extract (Text.lineStart text (top + row))
              (Text.lineStart text (top + row) + (Text.lineAt text (top + row)).length)).toList
            pairs).andThen
          (canvas.paintCursor row (Text.lineAt text (top + row))
            (view.cursor - Text.lineStart text (top + row)))).andThen
          (view.draw canvas rows (row + 1) (Text.lineStart text (top + (row + 1))))
      else .nothing pairs := by
  have hnumber : view.topLine + row = (top + row : Nat) := by rw [htop, Int.natCast_add]
  have hsize : view.lines.size = (Text.lines text).length := by rw [hlines, List.size_toArray]
  rw [draw, hnumber, hsize]
  by_cases hrow : top + row < (Text.lines text).length
  · have hitem : Text.itemAt? view.lines (top + row : Nat) =
        some (Text.lineAt text (top + row)) := by
      rw [Text.itemAt?, if_pos (Int.natCast_nonneg _), hlines, Int.toNat_natCast,
        List.getElem?_toArray, List.getElem?_eq_getElem hrow, Text.lineAt, Text.getD_lines hrow]
    have hnext : Text.lineStart text (top + row) + (Text.lineAt text (top + row)).length + 1 =
        Text.lineStart text (top + (row + 1)) := (Text.lineStart_succ hrow).symm
    rw [if_neg (by omega), if_pos hrow]
    simp only [hitem, hnext]
  · rw [if_pos (by omega), if_neg hrow]

/-- What rows show of their lines: as much as there are columns. -/
def shownText (text : List Char) (top : Nat) (width : Int) (rows : List Nat) : List Char :=
  rows.flatMap fun row => (Text.lineAt text (top + row)).take width.toNat

/-- The induction is on the rows left.  Behind each line its line feed is passed over, so
the offset stays that of the line to show. -/
theorem Of.paints_draw (h : view.Of text shown top) (hshades : palette.Shades shown)
    (rows row : Nat) (hrows : ∀ place : Nat, place < row + rows → place < canvas.pane.height)
    (pairs : ColorPairs) :
    (view.draw canvas rows row (Text.lineStart text (top + row)) pairs).Paints palette
      canvas.terminal pairs (shownText text top canvas.pane.width (rowsFrom text top row rows))
      ((rowsFrom text top row rows).flatMap fun row =>
        (Value.groups (rowColors text shown (top + row))).map Prod.fst) fun look =>
      (rowsFrom text top row rows).flatMap fun (row : Nat) =>
        Segment.calls look row 0 (rowSegments text shown canvas.pane.width (top + row)) ++
          rowCursor canvas.pane text view.cursor row (top + row) := by
  induction rows generalizing row pairs with
  | zero =>
      rw [rowsFrom, Nat.zero_min]
      exact Painting.paints_nothing palette canvas.terminal pairs
  | succ rows ih =>
      rw [draw_succ view canvas h.lines h.topLine]
      by_cases hrow : top + row < (Text.lines text).length
      · have hcolors : (view.colors.extract (Text.lineStart text (top + row))
            (Text.lineStart text (top + row) + (Text.lineAt text (top + row)).length)).toList =
              rowColors text shown (top + row) := by
          rw [h.colors, Array.toList_extract, List.extract_eq_take_drop, Nat.add_sub_cancel_left]
          rfl
        have hinside : row < canvas.pane.height := hrows row (by omega)
        have hfirst := paints_row hshades h.length hinside hrow view.cursor pairs
        have hrest (reached : ColorPairs) :=
          ih (row + 1) (fun place hplace => hrows place (by omega)) reached
        rw [if_pos hrow, rowsFrom_cons hrow, hcolors]
        exact hfirst.andThen (hrest _)
      · rw [if_neg hrow, rowsFrom_nil hrow]
        exact Painting.paints_nothing palette canvas.terminal pairs

end CodeView

/-- The code view begins where the first line shown begins. -/
theorem Editor.topOffset_codeView {editor : Editor} (h : 0 ≤ editor.topLine) :
    editor.codeView.topOffset = Text.lineStart editor.text editor.topLine.toNat := by
  rw [codeView, Text.before, if_pos h]
  rfl

end MarkupEditor
