import MarkupEditor.Proofs.Editor.Operations
import Mathlib.Tactic.Choose

/-!
# What the code view shows

The calls that show the code come in two kinds, told apart by their looks: those in the look
of a color write the lines in view, as far as there are columns, and one in reverse writes
the cell of the cursor, if it is in view.
-/

namespace MarkupEditor

/-- Of a range of places one may be chosen. -/
theorem flatMap_range_ite {α : Type} (count top place : Nat) (items : Nat → List α) :
    ((List.range count).flatMap fun row => if top + row = place then items row else []) =
      if top ≤ place ∧ place < top + count then items (place - top) else [] := by
  induction count with
  | zero =>
      rw [if_neg (by omega)]
      rfl
  | succ count ih =>
      rw [List.range_succ, List.flatMap_append, ih, List.flatMap_singleton]
      by_cases hlast : top + count = place
      · subst hlast
        rw [if_neg (by omega), if_pos rfl, if_pos (by omega), Nat.add_sub_cancel_left]
        rfl
      · rw [if_neg hlast, List.append_nil]
        exact if_congr (by omega) rfl rfl

/-! ### Looks -/

namespace Segment

variable {look : Option Value → Look} {row column : Int} {segments : List Segment}

theorem filter_ne_calls (h : ∀ segment ∈ segments, look segment.color ≠ Look.reverse) :
    (calls look row column segments).filter (fun call => call.look ≠ Look.reverse) =
      calls look row column segments := by
  apply List.filter_eq_self.2
  intro call hcall
  obtain ⟨segment, hsegment, hlook⟩ := exists_of_mem_calls hcall
  rw [hlook]
  exact decide_eq_true (h segment hsegment)

theorem filter_eq_calls (h : ∀ segment ∈ segments, look segment.color ≠ Look.reverse) :
    (calls look row column segments).filter (fun call => call.look = Look.reverse) = [] := by
  apply List.filter_eq_nil_iff.2
  intro call hcall
  obtain ⟨segment, hsegment, hlook⟩ := exists_of_mem_calls hcall
  rw [hlook, decide_eq_false (h segment hsegment)]
  exact Bool.false_ne_true

end Segment

namespace Editor

open ColorPairs

variable {palette : Palette} {editor : Editor}

theorem mem_codeColors {width : Int} {row : Nat} (hrow : row ∈ editor.numberedRows)
    {segment : Segment} (h : segment ∈ editor.segmentsAt width row) :
    segment.color ∈ editor.codeColors := by
  have hcolor : segment.color ∈ (editor.segmentsAt width row).map Segment.color :=
    List.mem_map_of_mem h
  exact List.mem_flatMap.2 ⟨row, hrow, (Segment.prefix_map_color_cut _ _ _).subset hcolor⟩

/-- The code is drawn with looks that whoever asks for a color is told, and none of them is
reverse. -/
theorem Ready.exists_looks (h : editor.Ready palette) {pane : Pane}
    (hpane : editor.code = some pane) (hheight : pane.height = editor.visibleLines)
    (htaken : editor.screen.device.takes (editor.codeText pane.width) = true) :
    ∃ (drawn : Editor) (shown : Pane) (look : Option Value → Look),
      editor.drawCode = (drawn, none) ∧ drawn.code = some shown ∧
      shown.calls = editor.codeCalls pane look ∧
      ∀ row ∈ editor.numberedRows, ∀ segment ∈ editor.segmentsAt pane.width row,
        drawn.pairs.lookFor drawn.screen.terminal segment.color =
            .ok ⟨drawn.pairs, look segment.color, []⟩ ∧
          look segment.color ≠ Look.reverse := by
  obtain ⟨painting, screen, hdraw, hscreen, hpaints⟩ := h.exists_drawCode hpane hheight
  have hdone : painting.failed = none := hpaints.failed_eq_none_iff.2 htaken
  have hdraws := hpaints.draws hdone
  choose! look hlook using hdraws
  rw [hdone] at hdraw
  refine ⟨_, _, look, hdraw, rfl, hpaints.calls hdone look hlook, ?_⟩
  intro row hrow segment hsegment
  have hcolor := hlook segment.color (mem_codeColors hrow hsegment)
  constructor
  · rw [← hscreen] at hcolor
    exact hcolor.lookFor_eq
  · obtain ⟨layer, -, hsettled⟩ := hcolor
    exact hsettled.ne_reverse (hpaints.later.numbered h.numbered)

section

variable {pane : Pane} {look : Option Value → Look}

theorem filter_ne_codeCalls
    (h : ∀ row ∈ editor.numberedRows, ∀ segment ∈ editor.segmentsAt pane.width row,
      look segment.color ≠ Look.reverse) :
    (editor.codeCalls pane look).filter (fun call => call.look ≠ Look.reverse) =
      editor.numberedRows.flatMap fun (row : Nat) =>
        Segment.calls look row 0 (editor.segmentsAt pane.width row) := by
  rw [codeCalls, List.filter_flatMap]
  apply List.flatMap_congr
  intro row hrow
  have hcursor : (rowCursor pane editor.text editor.cursor row (editor.topLine.toNat + row)).filter
      (fun call => call.look ≠ Look.reverse) = [] := by
    apply List.filter_eq_nil_iff.2
    intro call hcall
    rw [look_of_mem_rowCursor hcall]
    exact Bool.false_ne_true
  rw [List.filter_append, hcursor, List.append_nil]
  exact Segment.filter_ne_calls (h row hrow)

theorem filter_eq_codeCalls
    (h : ∀ row ∈ editor.numberedRows, ∀ segment ∈ editor.segmentsAt pane.width row,
      look segment.color ≠ Look.reverse) :
    (editor.codeCalls pane look).filter (fun call => call.look = Look.reverse) =
      editor.numberedRows.flatMap fun (row : Nat) =>
        rowCursor pane editor.text editor.cursor row (editor.topLine.toNat + row) := by
  rw [codeCalls, List.filter_flatMap]
  apply List.flatMap_congr
  intro row hrow
  rw [List.filter_append, Segment.filter_eq_calls (h row hrow), List.nil_append]
  apply List.filter_eq_self.2
  intro call hcall
  exact decide_eq_true (look_of_mem_rowCursor hcall)

end

/-- The cursor is shown once, if its cell is in view. -/
theorem Ready.flatMap_rowCursor (h : editor.Ready palette) {pane : Pane}
    (hheight : pane.height = editor.visibleLines) :
    (editor.numberedRows.flatMap fun (row : Nat) =>
        rowCursor pane editor.text editor.cursor row (editor.topLine.toNat + row)) =
      let position := editor.cursorPosition
      if editor.topLine ≤ position.line ∧ position.line < editor.topLine + editor.visibleLines ∧
          position.column < pane.width then
        [⟨position.line - editor.topLine, position.column,
          [(Text.lineAt editor.text position.line).getD position.column.toNat ' '], .reverse⟩]
      else [] := by
  obtain ⟨top, htop⟩ := Int.eq_ofNat_of_zero_le h.topLine
  obtain ⟨offset, hcursor⟩ := Int.eq_ofNat_of_zero_le h.nonneg
  have hle : offset ≤ editor.text.length := by
    have hbound := h.le
    omega
  obtain ⟨caret, hmarks⟩ := Text.exists_marks hle
  have hposition : editor.cursorPosition = ⟨caret.above.length, caret.left.length⟩ := by
    rw [cursorPosition, hcursor]
    exact hmarks.positionOf_eq
  have hline : caret.above.length < (Text.lines editor.text).length := hmarks.lt_length_lines
  rw [hposition, hcursor, htop, numberedRows, htop, Int.toNat_natCast]
  dsimp only
  generalize hcount :
    (min editor.visibleLines ((Text.lines editor.text).length - (top : Int))).toNat = count
  calc
    _ = (List.range count).flatMap fun row =>
          if top + row = caret.above.length then caretCalls pane.width editor.text caret row
          else [] := by
      apply List.flatMap_congr
      intro row hrow
      have hplace : row < count := List.mem_range.1 hrow
      exact rowCursor_eq hmarks (by omega) (by omega)
    _ = if top ≤ caret.above.length ∧ caret.above.length < top + count then
          caretCalls pane.width editor.text caret (caret.above.length - top)
        else [] := flatMap_range_ite count top caret.above.length _
    _ = _ := by
      by_cases hview : top ≤ caret.above.length ∧ caret.above.length < top + count
      · have hrow : ((caret.above.length - top : Nat) : Int) = caret.above.length - top := by omega
        rw [if_pos hview, caretCalls, hrow]
        exact if_congr (by omega) rfl rfl
      · rw [if_neg hview, if_neg (by omega)]

/-- Whatever has been done with an editor of an empty text, from whatever line on and in
however many columns its code is drawn: each row in view shows its line from the first
column on, as far as there are columns, in segments of one color each, neighbors in
different ones, and each in the look that whoever asks for its color is told.  Apart from
these the cell of the cursor is shown in reverse, once if it is in view and else not.  Only
where the screen does not take all that is in view, as a console takes no NUL character,
drawing fails. -/
theorem exists_drawCode_runAll (font : Value) (roles : Roles) {session : Session}
    (hreached : Session.Reached (.new (.new font roles)) session) (hsilent : session.Silent)
    (htext : session.buffer.text = []) {filename : Option String} {screen : Screen} {disk : Disk}
    {clock : Instant} (hstart : start session filename screen disk clock = .ok editor)
    (operations : List Operation) (width : Int) (top : Nat) :
    let reached := editor.runAll operations
    let rows := List.range
      (min reached.visibleLines.toNat ((Text.lines reached.text).length - top))
    let position := Text.positionOf reached.text reached.cursor
    let inView := CodeView.shownText reached.text top width rows
    ∃ pane, reached.code = some pane ∧
      let viewed : Editor :=
        { reached with topLine := top, code := some { pane with width := width } }
      (reached.screen.device.takes inView = true →
        ∃ (drawn : Editor) (shown : Pane) (look : Option Value → Look)
          (segments : Nat → List Segment),
          viewed.drawCode = (drawn, none) ∧ drawn.code = some shown ∧
          (∀ row ∈ rows,
            Segment.Show (segments row) ((Text.lineAt reached.text (top + row)).take width.toNat)
                ((rowColors reached.text reached.colors (top + row)).take width.toNat) ∧
              ∀ segment ∈ segments row, drawn.pairs.lookFor drawn.screen.terminal segment.color =
                .ok ⟨drawn.pairs, look segment.color, []⟩) ∧
          shown.calls.filter (fun call => call.look ≠ Look.reverse) =
            rows.flatMap (fun (row : Nat) => Segment.calls look row 0 (segments row)) ∧
          shown.calls.filter (fun call => call.look = Look.reverse) =
            if (top : Int) ≤ position.line ∧ position.line < top + reached.visibleLines ∧
                position.column < width then
              [⟨position.line - top, position.column,
                [(Text.lineAt reached.text position.line).getD position.column.toNat ' '],
                .reverse⟩]
            else []) ∧
        (reached.screen.device.takes inView = false → viewed.drawCode.2 = some .nulInText) := by
  intro reached rows position inView
  have hconsistent : session.buffer.Consistent :=
    Session.keptByBuffers_consistent.reached hreached (Buffer.consistent_new font roles)
  have hready : reached.Ready session.buffer.palette :=
    (ready_start hstart hconsistent hsilent htext).runAll operations
  obtain ⟨pane, hpane, hheight⟩ := hready.pane
  refine ⟨pane, hpane, ?_⟩
  intro viewed
  have hviewed : viewed.Ready session.buffer.palette :=
    { hready with topLine := Int.natCast_nonneg top, pane := ⟨_, rfl, hheight⟩ }
  have hrows : viewed.numberedRows = rows := by
    have hcount :
        (min reached.visibleLines ((Text.lines reached.text).length - (top : Int))).toNat =
        min reached.visibleLines.toNat ((Text.lines reached.text).length - top) := by omega
    exact congrArg List.range hcount
  have hsame : Pane.height { pane with width := width } = viewed.visibleLines := hheight
  have hinView : viewed.codeText width = inView :=
    congrArg (CodeView.shownText reached.text top width) hrows
  constructor
  case right =>
    intro hrefused
    rw [hviewed.failed_drawCode rfl hsame, hinView]
    exact if_neg (Bool.eq_false_iff.1 hrefused)
  intro htaken
  obtain ⟨drawn, shown, look, hdraw, hshown, hcalls, hlooks⟩ :=
    hviewed.exists_looks rfl hsame (hinView ▸ htaken)
  have hcolored : ∀ row ∈ viewed.numberedRows, ∀ segment ∈ viewed.segmentsAt width row,
      look segment.color ≠ Look.reverse :=
    fun row hrow segment hsegment => (hlooks row hrow segment hsegment).2
  refine ⟨drawn, shown, look, viewed.segmentsAt width, hdraw, hshown, ?_, ?_, ?_⟩
  · intro row hrow
    have hnumber : top + row < (Text.lines reached.text).length := by
      have hplace := List.mem_range.1 hrow
      omega
    refine ⟨CodeView.show_rowSegments hready.shades hready.toSound.length_colors width hnumber, ?_⟩
    intro segment hsegment
    exact (hlooks row (hrows ▸ hrow) segment hsegment).1
  · rw [hcalls, filter_ne_codeCalls hcolored, hrows]
  · rw [hcalls, filter_eq_codeCalls hcolored]
    exact hviewed.flatMap_rowCursor hsame

/-- Two lines are typed and drawn in two columns. -/
theorem exists_drawCode_runAll_narrow :
    ∃ editor, start (.new (.new hiddenFont .standard)) none ⟨24, 80, 8, 64, .console, []⟩ .empty 0 =
        .ok editor ∧
      let reached := editor.runAll [.key 60, .key 98, .key 62, .key Key.enter, .key 120]
      reached.text = ['<', 'b', '>', '\n', 'x'] ∧
        ∃ (pane : Pane) (drawn : Editor) (shown : Pane) (look : Option Value → Look)
          (segments : Nat → List Segment),
          drawCode { reached with topLine := (0 : Nat), code := some { pane with width := 2 } } =
            (drawn, none) ∧
          drawn.code = some shown ∧
          shown.calls.filter (fun call => call.look ≠ Look.reverse) =
            Segment.calls look 0 0 (segments 0) ++ Segment.calls look 1 0 (segments 1) ∧
          Segment.line (segments 0) = ['<', 'b'] ∧ Segment.line (segments 1) = ['x'] ∧
          shown.calls.filter (fun call => call.look = Look.reverse) =
            [⟨1, 1, [' '], Look.reverse⟩] := by
  obtain ⟨editor, hstart, htext, hrows, hcursor, hdevice⟩ : ∃ editor,
      start (.new (.new hiddenFont .standard)) none ⟨24, 80, 8, 64, .console, []⟩ .empty 0 =
          .ok editor ∧
        (editor.runAll [.key 60, .key 98, .key 62, .key Key.enter, .key 120]).text =
          ['<', 'b', '>', '\n', 'x'] ∧
        (editor.runAll [.key 60, .key 98, .key 62, .key Key.enter, .key 120]).visibleLines = 23 ∧
        (editor.runAll [.key 60, .key 98, .key 62, .key Key.enter, .key 120]).cursor = 5 ∧
        (editor.runAll [.key 60, .key 98, .key 62, .key Key.enter, .key 120]).screen.device =
          .console :=
    ⟨_, rfl, by decide +kernel, by decide +kernel, by decide +kernel, by decide +kernel⟩
  obtain ⟨pane, -, hdraws, -⟩ :=
    exists_drawCode_runAll hiddenFont .standard .start (Session.silent_new _) rfl hstart
      [.key 60, .key 98, .key 62, .key Key.enter, .key 120] 2 0
  have hrange : List.range (min (Int.toNat 23)
      ((Text.lines ['<', 'b', '>', '\n', 'x']).length - 0)) = [0, 1] := by decide
  rw [htext, hrows, hdevice, hrange] at hdraws
  obtain ⟨drawn, shown, look, segments, hdraw, hshown, hlines, hcolored, hreverse⟩ :=
    hdraws (by decide)
  rw [List.flatMap_cons, List.flatMap_singleton] at hcolored
  rw [hcursor] at hreverse
  obtain ⟨hfirst, -⟩ := hlines 0 (by decide)
  obtain ⟨hsecond, -⟩ := hlines 1 (by decide)
  exact ⟨editor, hstart, htext, pane, drawn, shown, look, segments, hdraw, hshown, hcolored,
    hfirst.line, hsecond.line, hreverse⟩

end Editor

end MarkupEditor
