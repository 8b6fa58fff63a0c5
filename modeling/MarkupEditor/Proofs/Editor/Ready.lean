import MarkupEditor.Proofs.Buffer.Tinted
import MarkupEditor.Proofs.Editor.CodeView
import MarkupEditor.Proofs.Editor.Edited

/-!
# Editors that can be drawn

An editor is ready to be drawn when its cursor is in the text, no line above the first one
is to be shown, and the colors of the text are those of a palette.  Then each character has
a color and each color a look, and drawing fails only for what the screen does not take of
the text in view or of the status.
-/

namespace MarkupEditor

namespace Editor

open ColorPairs

/-- An editor of a text in the colors of a palette. -/
structure Ready (palette : Palette) (editor : Editor) : Prop extends Sound editor where
  nonneg : 0 ≤ editor.cursor
  le : editor.cursor ≤ editor.text.length
  topLine : 0 ≤ editor.topLine
  colored : editor.session.buffer.palette = palette
  tinted : editor.session.buffer.Tinted
  numbered : Numbered palette editor.pairs
  pane : ∃ pane, editor.code = some pane ∧ pane.height = editor.visibleLines
  statusLine : ∃ pane, editor.statusLine = some pane ∧ pane.height = 1

variable {palette : Palette} {editor : Editor}

theorem colors_eq (editor : Editor) :
    editor.colors = editor.session.buffer.runs.cells.map colorOf := by
  rw [colors, RunList.cells, RunList.cellsOf, List.map_flatMap]
  simp only [List.map_replicate]

/-- Each character has a color or none. -/
theorem Sound.length_colors (h : editor.Sound) : editor.colors.length = editor.text.length := by
  rw [colors_eq, List.length_map, h.consistent.length_cells]
  rfl

theorem Ready.shades (h : editor.Ready palette) : palette.Shades editor.colors := by
  intro color hcolor
  rw [colors_eq] at hcolor
  obtain ⟨cell, hcell, rfl⟩ := List.mem_map.1 hcolor
  obtain ⟨layer, hlayer⟩ := h.tinted cell hcell
  refine ⟨layer, ?_⟩
  rw [colorOf, hlayer, ← h.colored]
  cases layer <;> rfl

/-- The rows of the code view are those of the gutter. -/
theorem numberedRows_eq (h : 0 ≤ editor.topLine) :
    editor.numberedRows =
      CodeView.rowsFrom editor.text editor.topLine.toNat 0 editor.visibleLines.toNat := by
  rw [numberedRows, CodeView.rowsFrom, List.range_eq_range']
  congr 1
  omega

/-- The segments that a row of the code view shows. -/
def segmentsAt (editor : Editor) (width : Int) (row : Nat) : List Segment :=
  rowSegments editor.text editor.colors width (editor.topLine.toNat + row)

/-- The calls that show the code, given the looks of the colors. -/
def codeCalls (editor : Editor) (pane : Pane) (look : Option Value → Look) : List Call :=
  editor.numberedRows.flatMap fun (row : Nat) =>
    Segment.calls look row 0 (editor.segmentsAt pane.width row) ++
      rowCursor pane editor.text editor.cursor row (editor.topLine.toNat + row)

/-- What is shown of the lines in view where there are so many columns. -/
def codeText (editor : Editor) (width : Int) : List Char :=
  CodeView.shownText editor.text editor.topLine.toNat width editor.numberedRows

/-- The colors of the lines that are shown. -/
def codeColors (editor : Editor) : List (Option Value) :=
  editor.numberedRows.flatMap fun row =>
    (Value.groups (rowColors editor.text editor.colors (editor.topLine.toNat + row))).map Prod.fst

/-- The code is drawn as far as the screen takes it, and nothing else changes. -/
theorem Ready.exists_drawCode (h : editor.Ready palette) {pane : Pane}
    (hpane : editor.code = some pane) (hheight : pane.height = editor.visibleLines) :
    ∃ (painting : Painting) (screen : Screen),
      editor.drawCode =
        ({ editor with
            code := some (pane.display painting.calls), pairs := painting.pairs
            screen := screen }, painting.failed) ∧
      screen.terminal = editor.screen.terminal ∧
      painting.Paints palette editor.screen.terminal editor.pairs (editor.codeText pane.width)
        editor.codeColors (editor.codeCalls pane) := by
  have htop : ((editor.topLine.toNat : Nat) : Int) = editor.topLine := Int.toNat_of_nonneg h.topLine
  have hview : editor.codeView.Of editor.text editor.colors editor.topLine.toNat :=
    ⟨rfl, rfl, htop.symm, h.toSound.length_colors⟩
  have hoffset : editor.codeView.topOffset = Text.lineStart editor.text editor.topLine.toNat :=
    topOffset_codeView h.topLine
  have hrows : ∀ place : Nat, place < 0 + editor.visibleLines.toNat →
      place < (Canvas.mk pane editor.screen.terminal).pane.height := by
    intro place hplace
    change (place : Int) < pane.height
    omega
  have hpaints := hview.paints_draw h.shades editor.visibleLines.toNat 0 hrows editor.pairs
  rw [← numberedRows_eq h.topLine, Nat.add_zero, ← hoffset] at hpaints
  generalize hpainting : editor.codeView.draw ⟨pane, editor.screen.terminal⟩
    editor.visibleLines.toNat 0 editor.codeView.topOffset editor.pairs = painting at hpaints
  rw [drawCode, hpane]
  simp only [hpainting]
  split
  · exact ⟨painting, (editor.screen.request (.clear .code :: painting.requests)).request
      [.flush .code], rfl, rfl, hpaints⟩
  · exact ⟨painting, editor.screen.request (.clear .code :: painting.requests), rfl, rfl, hpaints⟩

theorem Ready.failed_drawCode (h : editor.Ready palette) {pane : Pane}
    (hpane : editor.code = some pane) (hheight : pane.height = editor.visibleLines) :
    editor.drawCode.2 =
      if editor.screen.device.takes (editor.codeText pane.width) then none
      else some .nulInText := by
  obtain ⟨painting, screen, hdraw, -, hpaints⟩ := h.exists_drawCode hpane hheight
  rw [hdraw]
  exact hpaints.failed

end Editor

end MarkupEditor
