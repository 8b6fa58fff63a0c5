import MarkupEditor.Proofs.Editor.CodeView
import MarkupEditor.Proofs.Editor.Drawn

/-!
# The cell of the cursor

Drawn with its cursor, a text is drawn as without one, but for one call that writes the cell
of the cursor.  It stands in the row of the line that the cursor is in; no other line has
room for the cursor, at its end neither.  This is so whatever the text is colored with, and
where a color cannot be drawn, too.
-/

namespace MarkupEditor

/-- One painting does what another one does and at one place writes some calls more, unless
it has failed before. -/
structure Painting.Adds (plain : Painting) (cell : List Call) (shown : Painting) : Prop where
  pairs : shown.pairs = plain.pairs
  requests : shown.requests = plain.requests
  failed : shown.failed = plain.failed
  calls : ∃ before added behind, plain.calls = before ++ behind ∧
    shown.calls = before ++ added ++ behind ∧
    (added = cell ∨ added = [] ∧ plain.failed.isSome)

namespace Painting

variable {first shown : Painting} {next next' : ColorPairs → Painting} {cell : List Call}

theorem adds_andThen_left (h : first.Adds cell shown) (next : ColorPairs → Painting) :
    (first.andThen next).Adds cell (shown.andThen next) := by
  obtain ⟨before, added, behind, hplain, hshown, hadded⟩ := h.calls
  cases hfailed : first.failed with
  | some failure =>
      rw [andThen_of_failed hfailed, andThen_of_failed (h.failed.trans hfailed)]
      exact h
  | none =>
      have hcell : added = cell := by
        rw [hfailed] at hadded
        exact hadded.resolve_right fun hboth => Bool.false_ne_true hboth.2
      rw [andThen_of_not_failed hfailed, andThen_of_not_failed (h.failed.trans hfailed), h.pairs,
        h.requests, hplain, hshown]
      refine ⟨rfl, rfl, rfl, before, added, behind ++ (next first.pairs).calls, ?_, ?_, .inl hcell⟩
      · exact List.append_assoc ..
      · exact List.append_assoc ..

theorem adds_andThen_right (first : Painting)
    (h : first.failed = none → ∀ pairs, (next pairs).Adds cell (next' pairs)) :
    (first.andThen next).Adds cell (first.andThen next') := by
  cases hfailed : first.failed with
  | some failure =>
      rw [andThen_of_failed hfailed, andThen_of_failed hfailed]
      refine ⟨rfl, rfl, rfl, first.calls, [], [], ?_, ?_, .inr ⟨rfl, ?_⟩⟩
      · exact (List.append_nil _).symm
      · rw [List.append_nil, List.append_nil]
      · rw [hfailed]
        rfl
  | none =>
      have hnext := h hfailed first.pairs
      obtain ⟨before, added, behind, hplain, hshown, hadded⟩ := hnext.calls
      rw [andThen_of_not_failed hfailed, andThen_of_not_failed hfailed, hnext.pairs,
        hnext.requests, hnext.failed, hplain, hshown]
      refine ⟨rfl, rfl, rfl, first.calls ++ before, added, behind, ?_, ?_, hadded⟩
      · exact (List.append_assoc ..).symm
      · simp only [List.append_assoc]

end Painting

namespace CodeView

variable {view : CodeView} {canvas : Canvas} {text : List Char} {top : Nat} {caret : Text.Caret}
  {offset : Nat}

/-- The view without a cursor. -/
def hidden (view : CodeView) : CodeView := { view with cursor := -1 }

theorem paintCursor_hidden (view : CodeView) (canvas : Canvas) (row : Nat) (line : List Char)
    (start : Nat) (pairs : ColorPairs) :
    canvas.paintCursor row line (view.hidden.cursor - start) pairs = .nothing pairs := by
  have hcursor : view.hidden.cursor = -1 := rfl
  rw [Canvas.paintCursor, if_neg]
  omega

/-- The cursor has no cell in another line. -/
theorem paintCursor_of_ne (hmarks : caret.Marks text offset) {number : Nat}
    (hnumber : number < (Text.lines text).length) (hother : number ≠ caret.above.length)
    (row : Nat) (pairs : ColorPairs) :
    canvas.paintCursor row (Text.lineAt text number) (offset - Text.lineStart text number) pairs =
      .nothing pairs := by
  have hwithin := hmarks.within_iff hnumber
  rw [Canvas.paintCursor, if_neg fun hcolumn => hother (hwithin.1 (by omega))]

/-- The cursor has a cell in its own line, and where the line can be written, so can the
cell. -/
theorem paintCursor_of_marks (hmarks : caret.Marks text offset) {row : Nat}
    (hrow : row < canvas.pane.height)
    (htaken : canvas.terminal.device.takes
      ((Text.lineAt text caret.above.length).take canvas.pane.width.toNat) = true)
    (pairs : ColorPairs) :
    canvas.paintCursor row (Text.lineAt text caret.above.length)
        (offset - Text.lineStart text caret.above.length) pairs =
      ⟨caretCalls canvas.pane.width text caret row, pairs, [], none⟩ := by
  have hcalls := rowCursor_eq hmarks hrow hmarks.lt_length_lines
  rw [if_pos rfl, rowCursor] at hcalls
  rw [Canvas.paintCursor_eq hrow htaken, ← hcalls]

/-- Behind the line of the cursor it makes no difference.  The induction is on the rows left. -/
theorem draw_eq_draw_hidden (hlines : view.lines = (Text.lines text).toArray)
    (htop : view.topLine = top) (hmarks : caret.Marks text offset) (hcursor : view.cursor = offset)
    (rows row : Nat) (hrow : caret.above.length < top + row)
    (hrows : ∀ place : Nat, place < row + rows → place < canvas.pane.height) (pairs : ColorPairs) :
    view.draw canvas rows row (Text.lineStart text (top + row)) pairs =
      view.hidden.draw canvas rows row (Text.lineStart text (top + row)) pairs := by
  induction rows generalizing row pairs with
  | zero => rfl
  | succ rows ih =>
      have hinside : row < canvas.pane.height := hrows row (by omega)
      rw [draw_succ view canvas hlines htop, draw_succ view.hidden canvas hlines htop]
      by_cases hline : top + row < (Text.lines text).length
      · have hnext (reached : ColorPairs) := ih (row + 1) (by omega)
          (fun place hplace => hrows place (by omega)) reached
        have hsame (reached : ColorPairs) :
            canvas.paintCursor row (Text.lineAt text (top + row))
                (view.cursor - Text.lineStart text (top + row)) reached =
              canvas.paintCursor row (Text.lineAt text (top + row))
                (view.hidden.cursor - Text.lineStart text (top + row)) reached := by
          rw [paintCursor_hidden, hcursor, paintCursor_of_ne hmarks hline (by omega)]
        rw [if_pos hline, if_pos hline, funext hnext, funext hsame]
        rfl
      · rw [if_neg hline, if_neg hline]

/-- The cell of the cursor is what its line has more than without it.  The induction is on
the rows left down to that line. -/
theorem adds_draw (hlines : view.lines = (Text.lines text).toArray) (htop : view.topLine = top)
    (hmarks : caret.Marks text offset) (hcursor : view.cursor = offset) (rows row : Nat)
    (hfirst : top + row ≤ caret.above.length) (hlast : caret.above.length < top + row + rows)
    (hrows : ∀ place : Nat, place < row + rows → place < canvas.pane.height) (pairs : ColorPairs) :
    (view.hidden.draw canvas rows row (Text.lineStart text (top + row)) pairs).Adds
      (caretCalls canvas.pane.width text caret (caret.above.length - top))
      (view.draw canvas rows row (Text.lineStart text (top + row)) pairs) := by
  induction rows generalizing row pairs with
  | zero => exact absurd hlast (by omega)
  | succ rows ih =>
      have hinside : row < canvas.pane.height := hrows row (by omega)
      have hlater : ∀ place : Nat, place < row + 1 + rows → place < canvas.pane.height :=
        fun place hplace => hrows place (by omega)
      have hline : top + row < (Text.lines text).length :=
        Nat.lt_of_le_of_lt hfirst hmarks.lt_length_lines
      rw [draw_succ view canvas hlines htop, draw_succ view.hidden canvas hlines htop, if_pos hline,
        if_pos hline, hcursor, funext (paintCursor_hidden view canvas row _ _)]
      by_cases hown : top + row = caret.above.length
      · have hplace : caret.above.length - top = row := by omega
        have hnext (reached : ColorPairs) := draw_eq_draw_hidden hlines htop hmarks hcursor
          rows (row + 1) (by omega) hlater reached
        have hcolors : (view.colors.extract (Text.lineStart text (top + row))
            (Text.lineStart text (top + row) + (Text.lineAt text (top + row)).length)).toList.length ≤
              (Text.lineAt text (top + row)).length := by
          rw [Array.length_toList, Array.size_extract]
          omega
        rw [hplace, funext hnext]
        apply Painting.adds_andThen_left
        apply Painting.adds_andThen_right
        intro hpainted reached
        have htaken := Canvas.takes_of_paintLine hinside hcolors hpainted
        rw [hown] at htaken ⊢
        rw [paintCursor_of_marks hmarks hinside htaken]
        refine ⟨rfl, rfl, rfl, [], _, [], rfl, ?_, .inl rfl⟩
        exact (List.append_nil _).symm
      · rw [funext (paintCursor_of_ne hmarks hline hown row)]
        apply Painting.adds_andThen_right
        intro _ reached
        exact ih (row + 1) (by omega) (by omega) hlater reached

end CodeView

end MarkupEditor
