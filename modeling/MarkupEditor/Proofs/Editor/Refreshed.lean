import MarkupEditor.Proofs.Editor.CursorCell
import MarkupEditor.Proofs.Editor.Gutter
import MarkupEditor.Proofs.Editor.Operations

/-!
# After a refresh

Whatever has become of the text, the cursor and the size of the screen: after a refresh the
line of the cursor is among those shown, the gutter numbers the lines that are shown, and the
number in bold stands in the row of the cursor's cell.
-/

namespace MarkupEditor

/-- What has the calls of another pane, and some more in between. -/
def Pane.Adds (hidden : Pane) (added : List Call) (shown : Pane) : Prop :=
  ∃ before behind, hidden.calls = before ++ behind ∧ shown.calls = before ++ added ++ behind

namespace Editor

variable {editor after : Editor} {pane : Pane}

/-! ### Panes keep their size -/

/-- Two editors with the same panes, made for the same height. -/
structure SamePanes (before after : Editor) : Prop where
  numbers : after.numbers = before.numbers
  code : after.code = before.code
  height : after.height = before.height

/-- The editors that can be come to: by a start, by what is done with an editor, and by any
change that leaves the panes alone, be it of the text, the cursor or the first line. -/
inductive Attainable : Editor → Prop
  | start {session : Session} {filename : Option String} {screen : Screen} {disk : Disk}
      {clock : Instant} {editor : Editor}
      (h : start session filename screen disk clock = .ok editor) : Attainable editor
  | operate {editor : Editor} (h : Attainable editor) (operation : Operation) :
      Attainable (editor.operate operation)
  | change {editor after : Editor} (h : Attainable editor) (hsame : editor.SamePanes after) :
      Attainable after

/-- The gutter and the code have panes of the size that the editor knows of. -/
structure Framed (editor : Editor) : Prop where
  numbers : ∃ pane, editor.numbers = some pane ∧ pane.height = editor.visibleLines ∧
    pane.width = gutterWidth
  code : ∃ pane, editor.code = some pane ∧ pane.height = editor.visibleLines

theorem Framed.of_samePanes (h : editor.Framed) (hsame : editor.SamePanes after) :
    after.Framed := by
  constructor
  · rw [hsame.numbers, visibleLines, hsame.height]
    exact h.numbers
  · rw [hsame.code, visibleLines, hsame.height]
    exact h.code

theorem framed_openPanes (editor : Editor) : editor.openPanes.Framed where
  numbers := ⟨_, rfl, rfl, rfl⟩
  code := ⟨_, rfl, rfl⟩

theorem samePanes_save (editor : Editor) (filename : Option String) :
    editor.SamePanes (editor.save filename).1 := by
  obtain ⟨saved, hsave, hframe⟩ | ⟨tried, answer, hsave, -, hframe⟩ := save_cases editor filename
  · rw [hsave, hframe]
    exact ⟨rfl, rfl, rfl⟩
  · rw [hsave, hframe]
    exact ⟨rfl, rfl, rfl⟩

theorem samePanes_act (editor : Editor) (action : Action) :
    editor.SamePanes (editor.act action).1 := by
  by_cases hsave : action = .save
  · rw [hsave, editor_act_save]
    exact samePanes_save editor none
  · obtain ⟨stop, hact | ⟨start, coordinates, text, -, hact⟩⟩ := act_cases editor hsave
    · rw [hact]
      exact ⟨rfl, rfl, rfl⟩
    · rw [hact]
      exact ⟨rfl, rfl, rfl⟩

theorem samePanes_handleKey (editor : Editor) (key : Int) :
    editor.SamePanes (editor.handleKey key).1 := by
  obtain ⟨_, _, _, hquit⟩ | hsave | ⟨-, -, action, -, -, hact⟩ := handleKey_cases editor key
  · rw [hquit]
    exact ⟨rfl, rfl, rfl⟩
  · have hsame := samePanes_save { editor with quitRequested := false } none
    rw [hsave]
    exact ⟨hsame.numbers, hsame.code, hsame.height⟩
  · have hsame := samePanes_act { editor with quitRequested := false } action
    rw [hact]
    exact ⟨hsame.numbers, hsame.code, hsame.height⟩

theorem samePanes_load (editor : Editor) (filename : String) :
    editor.SamePanes (editor.load filename).1 := by
  rw [load]
  split
  · exact ⟨rfl, rfl, rfl⟩
  · next bytes hread =>
    dsimp only
    split
    · next changed failure hperform =>
      have hchanged : changed = (editor.perform _).1 := (congrArg Prod.fst hperform).symm
      rw [hchanged]
      exact ⟨rfl, rfl, rfl⟩
    · next changed hperform =>
      have hchanged : changed = (editor.perform _).1 := (congrArg Prod.fst hperform).symm
      rw [hchanged]
      exact ⟨rfl, rfl, rfl⟩

/-! ### The panes drawn -/

/-- What drawing the code comes to. -/
def codePainting (editor : Editor) (pane : Pane) : Painting :=
  editor.codeView.draw ⟨pane, editor.screen.terminal⟩ editor.visibleLines.toNat 0
    editor.codeView.topOffset editor.pairs

theorem drawCode_eq (hpane : editor.code = some pane) :
    editor.drawCode.1.code = some (pane.display (editor.codePainting pane).calls) ∧
      editor.drawCode.2 = (editor.codePainting pane).failed := by
  rw [drawCode, hpane]
  dsimp only
  split
  · exact ⟨rfl, rfl⟩
  · exact ⟨rfl, rfl⟩

/-- The gutter does not matter to the code. -/
theorem codePainting_drawNumbers (editor : Editor) (pane : Pane) :
    editor.drawNumbers.codePainting pane = editor.codePainting pane := by
  rw [drawNumbers]
  split
  · rfl
  · rfl

theorem topLine_refresh (editor : Editor) :
    editor.refresh.1.topLine =
      scrolled editor.topLine editor.visibleLines editor.cursorPosition.line := by
  rw [refresh_frame]
  rfl

theorem code_refresh (hpane : editor.code = some pane) :
    editor.refresh.1.code = some (pane.display (editor.scrollToCursor.codePainting pane).calls) ∧
      (editor.refresh.2 = none → (editor.scrollToCursor.codePainting pane).failed = none) := by
  have hsame : editor.scrollToCursor.drawNumbers.code = some pane := by
    rw [drawNumbers_frame]
    exact hpane
  obtain ⟨hcode, hfailed⟩ := drawCode_eq hsame
  rw [codePainting_drawNumbers] at hcode hfailed
  constructor
  · rw [refresh_frame]
    exact hcode
  · intro hdone
    rw [refresh_failure, Option.or_eq_none_iff] at hdone
    exact hfailed.symm.trans hdone.1

theorem numbers_refresh (hpane : editor.numbers = some pane)
    (hheight : pane.height = editor.visibleLines) (hwidth : pane.width = gutterWidth) :
    editor.refresh.1.numbers = some (pane.display
      (editor.scrollToCursor.numberedRows.map editor.scrollToCursor.numberCall)) := by
  have hscrolled : editor.scrollToCursor.numbers = some pane := hpane
  rw [refresh_frame]
  exact drawNumbers_eq hscrolled hheight hwidth

theorem Framed.refresh (h : editor.Framed) : editor.refresh.1.Framed := by
  obtain ⟨gutter, hgutter, hheight, hwidth⟩ := h.numbers
  obtain ⟨pane, hpane, hrows⟩ := h.code
  have hvisible : editor.refresh.1.visibleLines = editor.visibleLines := by
    rw [refresh_frame]
    rfl
  constructor
  · rw [hvisible]
    exact ⟨_, numbers_refresh hgutter hheight hwidth, hheight, hwidth⟩
  · rw [hvisible]
    exact ⟨_, (code_refresh hpane).1, hrows⟩

theorem Framed.operate (h : editor.Framed) (operation : Operation) :
    (editor.operate operation).Framed := by
  cases operation with
  | key code => exact h.of_samePanes (samePanes_handleKey editor code)
  | load filename =>
      rw [operate_load]
      exact h.of_samePanes (samePanes_load editor filename)
  | save filename => exact h.of_samePanes (samePanes_save editor filename)
  | resize => exact framed_openPanes _
  | refresh => exact h.refresh
  | surroundings screen disk clock => exact h.of_samePanes ⟨rfl, rfl, rfl⟩

theorem framed_start {session : Session} {filename : Option String} {screen : Screen}
    {disk : Disk} {clock : Instant} (h : start session filename screen disk clock = .ok editor) :
    editor.Framed := by
  rw [start] at h
  split at h
  · cases h
  · cases h
    exact framed_openPanes _

theorem Attainable.framed (h : editor.Attainable) : editor.Framed := by
  induction h with
  | start hstart => exact framed_start hstart
  | operate _ operation ih => exact ih.operate operation
  | change _ hsame ih => exact ih.of_samePanes hsame

/-! ### The cursor in view -/

/-- The call that writes the cell of a position where a line is the first one shown. -/
def cursorCell (text : List Char) (position : Text.Position) (topLine : Int) : Call where
  row := position.line - topLine
  column := position.column
  text := [(Text.lineAt text position.line).getD position.column.toNat ' ']
  look := .reverse

theorem within_cursorPosition (hnonneg : 0 ≤ editor.cursor)
    (hle : editor.cursor ≤ editor.text.length) : editor.cursorPosition.Within editor.text := by
  obtain ⟨offset, hoffset⟩ := Int.eq_ofNat_of_zero_le hnonneg
  rw [cursorPosition, hoffset]
  exact Text.within_positionOf (by omega)

/-- With a cursor in view the code is drawn as without one, and the cell of the cursor besides. -/
theorem adds_codePainting (hnonneg : 0 ≤ editor.cursor) (hle : editor.cursor ≤ editor.text.length)
    (htop : 0 ≤ editor.topLine) (hheight : pane.height = editor.visibleLines)
    (hview : InView editor.topLine editor.visibleLines editor.cursorPosition.line) :
    (codePainting { editor with cursor := -1 } pane).Adds
      (if editor.cursorPosition.column < pane.width then
        [cursorCell editor.text editor.cursorPosition editor.topLine] else [])
      (editor.codePainting pane) := by
  obtain ⟨offset, hoffset⟩ := Int.eq_ofNat_of_zero_le hnonneg
  obtain ⟨top, htopLine⟩ := Int.eq_ofNat_of_zero_le htop
  obtain ⟨caret, hmarks⟩ := Text.exists_marks (show offset ≤ editor.text.length by omega)
  have hposition : editor.cursorPosition = ⟨caret.above.length, caret.left.length⟩ := by
    rw [cursorPosition, hoffset]
    exact hmarks.positionOf_eq
  rw [hposition, htopLine] at hview
  have hfirst : top + 0 ≤ caret.above.length := Int.ofNat_le.1 hview.1
  have hlast : caret.above.length < top + 0 + editor.visibleLines.toNat := by
    have hlt : (caret.above.length : Int) < top + editor.visibleLines := hview.2
    omega
  have hrows : ∀ place : Nat, place < 0 + editor.visibleLines.toNat →
      place < (Canvas.mk pane editor.screen.terminal).pane.height := by
    intro place hplace
    change (place : Int) < pane.height
    omega
  have hoffset' : editor.codeView.topOffset = Text.lineStart editor.text (top + 0) := by
    rw [topOffset_codeView htop, htopLine]
    rfl
  have hcell : (if editor.cursorPosition.column < pane.width then
      [cursorCell editor.text editor.cursorPosition editor.topLine] else []) =
        caretCalls pane.width editor.text caret (caret.above.length - top) := by
    have hrow : ((caret.above.length - top : Nat) : Int) = caret.above.length - top := by omega
    rw [hposition, htopLine, caretCalls, hrow]
    rfl
  change Painting.Adds (editor.codeView.hidden.draw ⟨pane, editor.screen.terminal⟩
    editor.visibleLines.toNat 0 editor.codeView.topOffset editor.pairs) _
    (editor.codeView.draw ⟨pane, editor.screen.terminal⟩ editor.visibleLines.toNat 0
      editor.codeView.topOffset editor.pairs)
  rw [hcell, hoffset']
  exact CodeView.adds_draw rfl htopLine hmarks hoffset editor.visibleLines.toNat 0 hfirst hlast
    hrows editor.pairs

/-- After a refresh the line of the cursor is in view, scrolled to no farther than needed.
The gutter has a number in each row that shows a line, and the one in bold stands in the row
where the line of the cursor is shown.  The code is what it is without a cursor, and in that
row there may be the cell of the cursor besides; there is, if nothing fails and there is such
a column.  A second refresh does not scroll. -/
theorem inView_refresh (h : editor.Attainable) (hnonneg : 0 ≤ editor.cursor)
    (hle : editor.cursor ≤ editor.text.length) (htop : 0 ≤ editor.topLine)
    (hheight : 2 ≤ editor.height) :
    let drawn := editor.refresh.1
    let position := editor.cursorPosition
    let count := editor.text.count '\n' + 1
    (drawn.text = editor.text ∧ drawn.cursorPosition = position ∧
        drawn.visibleLines = editor.visibleLines) ∧
      (InView drawn.topLine drawn.visibleLines position.line ∧
        0 ≤ drawn.topLine ∧ drawn.topLine < count) ∧
      (InView editor.topLine editor.visibleLines position.line → drawn.topLine = editor.topLine) ∧
      (∀ other, InView other editor.visibleLines position.line → other ≠ drawn.topLine →
        (drawn.topLine - editor.topLine).natAbs < (other - editor.topLine).natAbs) ∧
      (∃ gutter, drawn.numbers = some gutter ∧
        gutter.Numbers count drawn.topLine drawn.visibleLines position.line) ∧
      (∃ shown hidden added, drawn.code = some shown ∧
        (drawCode { editor with topLine := drawn.topLine, cursor := -1 }).1.code = some hidden ∧
        hidden.Adds added shown ∧
        (added = [] ∨ added = [cursorCell editor.text position drawn.topLine]) ∧
        (editor.refresh.2 = none → position.column < shown.width →
          added = [cursorCell editor.text position drawn.topLine])) ∧
      drawn.refresh.1.topLine = drawn.topLine := by
  intro drawn position count
  have hframed := h.framed
  obtain ⟨numbers, hnumbers, hrows, hcolumns⟩ := hframed.numbers
  obtain ⟨pane, hpane, hsize⟩ := hframed.code
  have hwithin := within_cursorPosition hnonneg hle
  have hcount : count = (Text.lines editor.text).length := (Text.length_lines editor.text).symm
  have hvisible : 0 < editor.visibleLines := by
    rw [visibleLines]
    omega
  have htopLine : drawn.topLine = editor.scrollToCursor.topLine := topLine_refresh editor
  have hsame : drawn.text = editor.text ∧ drawn.cursorPosition = position ∧
      drawn.visibleLines = editor.visibleLines := by
    have hframe : drawn = _ := refresh_frame editor
    rw [hframe]
    exact ⟨rfl, rfl, rfl⟩
  have hview : InView editor.scrollToCursor.topLine editor.visibleLines position.line :=
    inView_scrolled hvisible _ _
  have hscrolled : 0 ≤ editor.scrollToCursor.topLine := scrolled_nonneg htop _ _
  rw [hsame.2.2, htopLine, hcount]
  refine ⟨⟨hsame.1, hsame.2.1, rfl⟩, ⟨hview, hscrolled, ?_⟩, scrolled_of_inView, ?_, ?_, ?_, ?_⟩
  · exact Int.lt_of_le_of_lt hview.1 (Int.ofNat_lt.2 hwithin.line_lt)
  · intro other hother hne
    exact scrolled_nearest hother hne
  · exact ⟨_, numbers_refresh hnumbers hrows hcolumns,
      numbers_display numbers hview hwithin.line_lt⟩
  · obtain ⟨hshown, hfailed⟩ := code_refresh hpane
    have hpainting : (codePainting { editor.scrollToCursor with cursor := -1 } pane).Adds _
        (editor.scrollToCursor.codePainting pane) :=
      adds_codePainting hnonneg hle hscrolled hsize hview
    obtain ⟨before, added, behind, hplain, hcalls, hadded⟩ := hpainting.calls
    have hhidden : ({ editor.scrollToCursor with cursor := -1 } : Editor).code = some pane := hpane
    refine ⟨_, _, added, hshown, (drawCode_eq hhidden).1, ⟨before, behind, hplain, hcalls⟩, ?_, ?_⟩
    · obtain hcell | ⟨hnone, -⟩ := hadded
      · rw [hcell]
        split
        · exact .inr rfl
        · exact .inl rfl
      · exact .inl hnone
    · intro hdone hcolumn
      obtain hcell | ⟨-, hfailure⟩ := hadded
      · exact hcell.trans (if_pos hcolumn)
      · rw [← hpainting.failed, hfailed hdone] at hfailure
        cases hfailure
  · rw [topLine_refresh, hsame.2.2, hsame.2.1, htopLine]
    exact scrolled_of_inView hview

/-- Four lines fit on the screen, and a fifth one is typed. -/
theorem inView_refresh_fifthLine :
    ∃ editor, start (.new (.new hiddenFont .standard)) none ⟨5, 20, 8, 64, .console, []⟩ .empty 0 =
        .ok editor ∧
      let typed := editor.runAll [.key 10, .key 10, .key 10, .key 10, .key 97]
      typed.topLine = 0 ∧ typed.refresh.1.topLine = 1 ∧
        (∃ gutter, typed.refresh.1.numbers = some gutter ∧ gutter.Numbers 5 1 4 4) ∧
        typed.refresh.1.refresh.1.topLine = 1 := by
  obtain ⟨editor, hstart, htext, hcursor, htop, hheight⟩ : ∃ editor,
      start (.new (.new hiddenFont .standard)) none ⟨5, 20, 8, 64, .console, []⟩ .empty 0 =
          .ok editor ∧
        (editor.runAll [.key 10, .key 10, .key 10, .key 10, .key 97]).text =
          ['\n', '\n', '\n', '\n', 'a'] ∧
        (editor.runAll [.key 10, .key 10, .key 10, .key 10, .key 97]).cursor = 5 ∧
        (editor.runAll [.key 10, .key 10, .key 10, .key 10, .key 97]).topLine = 0 ∧
        (editor.runAll [.key 10, .key 10, .key 10, .key 10, .key 97]).height = 5 :=
    ⟨_, rfl, by decide +kernel, by decide +kernel, by decide +kernel, by decide +kernel⟩
  have hattainable : (editor.runAll [.key 10, .key 10, .key 10, .key 10, .key 97]).Attainable :=
    (((((Attainable.start hstart).operate _).operate _).operate _).operate _).operate _
  refine ⟨editor, hstart, ?_⟩
  generalize editor.runAll [.key 10, .key 10, .key 10, .key 10, .key 97] = typed at *
  have hline : (typed.cursorPosition.line : Int) = 4 := by
    rw [cursorPosition, htext, hcursor]
    decide
  have hcount : typed.text.count '\n' + 1 = 5 := by rw [htext]; decide
  have hvisible : typed.visibleLines = 4 := by rw [visibleLines, hheight]; decide
  have hle : typed.cursor ≤ typed.text.length := by rw [htext, hcursor]; decide
  obtain ⟨⟨-, -, hsame⟩, ⟨⟨-, hlast⟩, -, -⟩, -, hnearest, ⟨gutter, hgutter, hnumbers⟩, -, hagain⟩ :=
    inView_refresh hattainable (by omega) hle (by omega) (by omega)
  have hfirst : InView 1 typed.visibleLines typed.cursorPosition.line := by
    rw [InView]
    omega
  have hscrolled : typed.refresh.1.topLine = 1 := by
    by_contra hother
    have hnearer := hnearest 1 hfirst (Ne.symm hother)
    omega
  rw [hcount, hsame, hscrolled, hvisible, hline] at hnumbers
  exact ⟨htop, hscrolled, ⟨gutter, hgutter, hnumbers⟩, hagain.trans hscrolled⟩

end Editor

end MarkupEditor
