import MarkupEditor.Proofs.Editor.Action
import MarkupEditor.Proofs.Editor.Edited
import MarkupEditor.Proofs.Editor.Grid

/-!
# Keys on a grid

What a key does to the offset of the cursor and to the text is what it does to a grid of
lines.  The text and the cursor can be read off from the grid again, so nothing else of
them is seen by a key.
-/

namespace MarkupEditor

namespace Editor

open Text (Caret)

/-- An editor with its cursor in the text, and the grid that it shows. -/
structure Shows (editor : Editor) (grid : Grid) : Prop where
  sound : editor.Sound
  nonneg : 0 ≤ editor.cursor
  le : editor.cursor ≤ editor.text.length
  grid : Grid.ofEditor editor = grid

variable {editor : Editor} {grid : Grid}

theorem shows_of_marks (hsound : editor.Sound) {caret : Caret} {offset : Nat}
    (hmarks : caret.Marks editor.text offset) (hcursor : editor.cursor = offset) :
    editor.Shows (Grid.ofCaret caret) where
  sound := hsound
  nonneg := by omega
  le := hcursor ▸ Int.ofNat_le.2 hmarks.le
  grid := Grid.ofEditor_eq_ofCaret hmarks hcursor

theorem Shows.exists_marks (h : editor.Shows grid) :
    ∃ caret offset, Caret.Marks caret editor.text offset ∧ editor.cursor = (offset : Nat) ∧
      grid = Grid.ofCaret caret := by
  obtain ⟨offset, hcursor⟩ := Int.eq_ofNat_of_zero_le h.nonneg
  have hle : offset ≤ editor.text.length := by
    have hbound := h.le
    omega
  obtain ⟨caret, hmarks⟩ := Text.exists_marks hle
  exact ⟨caret, offset, hmarks, hcursor,
    h.grid.symm.trans (Grid.ofEditor_eq_ofCaret hmarks hcursor)⟩

/-- The text and the cursor are those of the grid. -/
theorem Shows.text_eq (h : editor.Shows grid) :
    editor.text = grid.text ∧ editor.cursor = Text.offsetOf grid.text grid.row grid.column := by
  have htext : editor.text = grid.text := by
    rw [← h.grid, Grid.text]
    exact (Text.intercalate_lines editor.text).symm
  obtain ⟨caret, offset, hmarks, hcursor, rfl⟩ := h.exists_marks
  refine ⟨htext, ?_⟩
  rw [← htext, hcursor]
  exact congrArg Nat.cast hmarks.offsetOf_eq.symm

/-- An action has succeeded, in the editor as on the grid. -/
def Comes (editor : Editor) (outcome : Editor × Option Failure) (grid : Grid) : Prop :=
  ∃ after, outcome = (after, none) ∧ after.Shows grid ∧ after.height = editor.height

theorem Shows.comes (h : editor.Shows grid) : editor.Comes (editor, none) grid :=
  ⟨editor, rfl, h, rfl⟩

/-- An editor shows the grid of a caret once the text at the cursor has been replaced. -/
theorem Edited.comes {text : List Char} {edited : Editor} (h : editor.Edited text edited)
    {caret : Caret} {offset : Nat} (hmarks : caret.Marks text offset) {cursor : Int}
    (hcursor : cursor = offset) :
    editor.Comes ({ edited with cursor := cursor }, none) (Grid.ofCaret caret) := by
  have hplaced : caret.Marks (edited.moveTo cursor).text offset := h.text ▸ hmarks
  have hsound : (edited.moveTo cursor).Sound := h.sound.of_session rfl
  refine ⟨_, rfl, shows_of_marks hsound hplaced hcursor, ?_⟩
  rw [h.frame]

theorem Edited.cursor_eq {text : List Char} {edited : Editor} (h : editor.Edited text edited) :
    edited.cursor = editor.cursor := by
  rw [h.frame]

theorem Shows.comes_insert (h : editor.Shows grid) {text : List Char}
    (htext : text = ['\n'] ∨ '\n' ∉ text) (page : Int) :
    editor.Comes (editor.insertText text) (grid.act page (.insert text)) := by
  obtain ⟨caret, offset, hmarks, hcursor, rfl⟩ := h.exists_marks
  have hfits : offset + 0 ≤ editor.text.length := by
    have hbound := h.le
    omega
  obtain ⟨edited, hperform, hedited⟩ := h.sound.exists_replace hfits text
  have hreplace : editor.perform (.replace [editor.cursor, 0] (.plain text)) = (edited, none) := by
    rw [hcursor]
    exact hperform
  have hbehind : edited.cursor + text.length = (offset + text.length : Nat) := by
    rw [hedited.cursor_eq, hcursor, Int.natCast_add]
  rw [insertText, hreplace, Grid.act]
  by_cases hfeed : text = ['\n']
  · rw [if_pos hfeed, Grid.splitLine_ofCaret]
    subst hfeed
    exact hedited.comes hmarks.split hbehind
  · rw [if_neg hfeed, Grid.insertChars_ofCaret]
    exact hedited.comes (hmarks.insert (htext.resolve_left hfeed)) hbehind

theorem Shows.comes_delete (h : editor.Shows grid) :
    editor.Comes editor.deleteChar grid.delete := by
  obtain ⟨caret, offset, hmarks, hcursor, rfl⟩ := h.exists_marks
  rw [deleteChar, hcursor]
  by_cases hlt : offset + 1 ≤ editor.text.length
  · obtain ⟨next, gone, haround⟩ := hmarks.exists_around_of_lt hlt
    obtain ⟨edited, hperform, hedited⟩ := h.sound.exists_replace hlt []
    have hreplace : editor.perform (.replace [(offset : Int), 1] (.plain [])) = (edited, none) :=
      hperform
    rw [if_pos (Int.ofNat_lt.2 hlt), hreplace, Grid.delete_of_around haround]
    exact hedited.comes (haround.marks_gone hmarks) (hedited.cursor_eq.trans hcursor)
  · have hend : offset = editor.text.length := by
      have hbound := h.le
      omega
    rw [if_neg (by omega), Grid.delete_at_end (hend ▸ hmarks).eq_nil_of_offset_eq_length]
    exact h.comes

theorem Shows.comes_backspace (h : editor.Shows grid) :
    editor.Comes editor.backspace grid.backspace := by
  obtain ⟨caret, offset, hmarks, hcursor, rfl⟩ := h.exists_marks
  rw [backspace, hcursor]
  by_cases hzero : offset = 0
  · rw [if_pos (by omega), Grid.backspace_at_start (hzero ▸ hmarks).eq_nil_of_offset_eq_zero]
    exact h.comes
  · obtain ⟨here, gone, haround⟩ := hmarks.exists_around_of_ne_zero hzero
    obtain ⟨earlier, rfl, hhere⟩ := haround.exists_marks_here hmarks
    have hbefore : ((earlier + 1 : Nat) : Int) - 1 = earlier := by omega
    have hsound : (editor.moveTo earlier).Sound := h.sound.of_session rfl
    have hfits : earlier + 1 ≤ (editor.moveTo earlier).text.length := by
      have hbound : editor.cursor ≤ (editor.moveTo earlier).text.length := h.le
      omega
    obtain ⟨edited, hperform, hedited⟩ := hsound.exists_replace hfits []
    rw [if_neg (by omega), hbefore, Grid.backspace_of_around haround]
    have hreplace : (editor.moveTo earlier).perform (.replace [(earlier : Int), 1] (.plain [])) =
        (edited, none) := hperform
    change editor.Comes ((editor.moveTo earlier).perform (.replace [(earlier : Int), 1] _)) _
    rw [hreplace]
    exact hedited.comes (haround.marks_gone hhere) hedited.cursor_eq

/-! ### Movements -/

theorem Shows.comes_moveTo (h : editor.Shows grid) {caret : Caret} {offset : Nat}
    (hmarks : caret.Marks editor.text offset) {cursor : Int} (hcursor : cursor = offset) :
    editor.Comes (editor.moveTo cursor, none) (Grid.ofCaret caret) := by
  have hplaced : caret.Marks (editor.moveTo cursor).text offset := hmarks
  have hsound : (editor.moveTo cursor).Sound := h.sound.of_session rfl
  exact ⟨_, rfl, shows_of_marks hsound hplaced hcursor, rfl⟩

theorem Shows.comes_left (h : editor.Shows grid) :
    editor.Comes (editor.moveTo (max 0 (editor.cursor - 1)), none) grid.left := by
  obtain ⟨caret, offset, hmarks, hcursor, rfl⟩ := h.exists_marks
  by_cases hzero : offset = 0
  · rw [Grid.left_at_start (hzero ▸ hmarks).eq_nil_of_offset_eq_zero]
    exact h.comes_moveTo hmarks (by omega)
  · obtain ⟨here, gone, haround⟩ := hmarks.exists_around_of_ne_zero hzero
    obtain ⟨earlier, rfl, hhere⟩ := haround.exists_marks_here hmarks
    rw [Grid.left_of_around haround]
    exact h.comes_moveTo hhere (by omega)

theorem Shows.comes_right (h : editor.Shows grid) :
    editor.Comes (editor.moveTo (min editor.text.length (editor.cursor + 1)), none) grid.right := by
  obtain ⟨caret, offset, hmarks, hcursor, rfl⟩ := h.exists_marks
  have hbound := h.le
  by_cases hlt : offset < editor.text.length
  · obtain ⟨next, gone, haround⟩ := hmarks.exists_around_of_lt hlt
    rw [Grid.right_of_around haround]
    exact h.comes_moveTo (haround.marks_next hmarks) (by omega)
  · have hend : offset = editor.text.length := by omega
    rw [Grid.right_at_end (hend ▸ hmarks).eq_nil_of_offset_eq_length]
    exact h.comes_moveTo hmarks (by omega)

/-- The cursor goes to a line and column, both brought into the text. -/
theorem Shows.comes_offsetOf (h : editor.Shows grid) (line column : Int) :
    editor.Comes (editor.moveTo (Text.offsetOf editor.text line column), none)
      (let row := Text.clamp line grid.lastRow
      ⟨grid.lines, row, Text.clamp column (grid.lines.getD row []).length⟩) := by
  have hlines : Text.lines editor.text = grid.lines := congrArg Grid.lines h.grid
  rw [Grid.lastRow, ← hlines,
    ← Grid.ofCaret_caretAt (Text.clamp_lt_length_lines ..) (Text.clamp_le ..)]
  exact h.comes_moveTo (Text.marks_offsetOf editor.text line column) rfl

theorem Shows.position_eq (h : editor.Shows grid) :
    Text.positionOf editor.text editor.cursor = ⟨grid.row, grid.column⟩ := by
  obtain ⟨caret, offset, hmarks, hcursor, rfl⟩ := h.exists_marks
  rw [hcursor]
  exact hmarks.positionOf_eq

theorem Shows.comes_moveLines (h : editor.Shows grid) (count : Int) :
    editor.Comes (editor.moveLines count, none) (grid.moveRows count) := by
  have hrow : Text.clamp (max 0 (grid.row + count)) grid.lastRow =
      min (grid.row + count).toNat grid.lastRow := by
    rw [Text.clamp]
    omega
  have hmoved := h.comes_offsetOf (max 0 (grid.row + count)) grid.column
  rw [hrow] at hmoved
  rw [moveLines, h.position_eq]
  exact hmoved

theorem Shows.row_le (h : editor.Shows grid) :
    grid.row ≤ grid.lastRow ∧ grid.line.length ≤ editor.text.length := by
  obtain ⟨caret, offset, hmarks, hcursor, rfl⟩ := h.exists_marks
  refine ⟨by simp [Grid.lastRow, Grid.ofCaret], ?_⟩
  rw [hmarks.text]
  simp [Grid.line, Grid.ofCaret, Caret.before, Caret.behind]
  omega

theorem Shows.comes_moveToColumn (h : editor.Shows grid) {column : Int} {place : Nat}
    (hplace : Text.clamp column grid.line.length = place) :
    editor.Comes (editor.moveToColumn column, none) { grid with column := place } := by
  have hrow : Text.clamp (grid.row : Int) grid.lastRow = grid.row := Nat.min_eq_left h.row_le.1
  have hmoved := h.comes_offsetOf grid.row column
  rw [hrow] at hmoved
  rw [moveToColumn, h.position_eq, ← hplace]
  exact hmoved

/-! ### Keys -/

theorem Shows.comes_act (h : editor.Shows grid) {action : Action} (hsave : action ≠ .save)
    (hinsert : ∀ text, action = .insert text → text = ['\n'] ∨ '\n' ∉ text) :
    editor.Comes (editor.act action) (grid.act editor.visibleLines action) := by
  cases action with
  | quit => exact h.comes
  | save => exact absurd rfl hsave
  | insert text => exact h.comes_insert (hinsert text rfl) _
  | delete => exact h.comes_delete
  | backspace => exact h.comes_backspace
  | left => exact h.comes_left
  | right => exact h.comes_right
  | up => exact h.comes_moveLines (-1)
  | down => exact h.comes_moveLines 1
  | pageUp => exact h.comes_moveLines (-editor.visibleLines)
  | pageDown => exact h.comes_moveLines editor.visibleLines
  | lineStart => exact h.comes_moveToColumn (Nat.zero_min _)
  | lineEnd => exact h.comes_moveToColumn (Nat.min_eq_right h.row_le.2)

theorem Shows.exists_handleKey (h : editor.Shows grid) {key : Int} (hsave : key ≠ Key.save)
    (hquit : key ≠ Key.quit) :
    ∃ after, editor.handleKey key = (after, .ok true) ∧
      after.Shows (grid.press editor.visibleLines key) ∧ after.height = editor.height := by
  have hready : Shows { editor with quitRequested := false } grid :=
    ⟨h.sound.of_session rfl, h.nonneg, h.le, h.grid⟩
  rw [handleKey.eq_def, Grid.press]
  cases haction : Action.ofKey? key with
  | none => exact ⟨_, rfl, hready, rfl⟩
  | some action =>
      have hnosave : action ≠ .save := by
        rintro rfl
        exact hsave (Action.key_eq_of_save haction)
      have hinsert (text : List Char) (heq : action = .insert text) :
          text = ['\n'] ∨ '\n' ∉ text :=
        Action.text_of_insert (heq ▸ haction)
      obtain ⟨after, hact, hshows, hheight⟩ := hready.comes_act hnosave hinsert
      cases action with
      | quit => exact absurd (Action.key_eq_of_quit haction) hquit
      | _ => exact ⟨after, by simp only [hact], hshows, hheight⟩

theorem Shows.exists_handleKeys (h : editor.Shows grid) {keys : List Int}
    (hkeys : ∀ key ∈ keys, key ≠ Key.save ∧ key ≠ Key.quit) :
    ∃ after, editor.handleKeys keys = (after, .ok (keys.map fun _ => true)) ∧
      after.Shows (keys.foldl (Grid.press editor.visibleLines) grid) := by
  induction keys generalizing editor grid with
  | nil => exact ⟨editor, rfl, h⟩
  | cons key rest ih =>
      obtain ⟨hsave, hquit⟩ := hkeys key List.mem_cons_self
      obtain ⟨reached, hkey, hreached, hheight⟩ := h.exists_handleKey hsave hquit
      obtain ⟨after, hrest, hafter⟩ :=
        ih hreached fun other hother => hkeys other (List.mem_cons_of_mem _ hother)
      have hpage : reached.visibleLines = editor.visibleLines := by
        rw [visibleLines, hheight, visibleLines]
      refine ⟨after, ?_, ?_⟩
      · simp only [handleKeys, hkey, hrest]
        rfl
      · rw [hpage] at hafter
        exact hafter

/-- Any number of keys, other than to save and to quit, do to the editor what they do to
the grid that it shows: none of them fails or ends the editor, and the cursor stays in
the text.  The grid gives the text and the cursor back. -/
theorem shows_handleKeys (h : editor.Sound) (hnonneg : 0 ≤ editor.cursor)
    (hle : editor.cursor ≤ editor.text.length) {keys : List Int}
    (hkeys : ∀ key ∈ keys, key ≠ Key.save ∧ key ≠ Key.quit) :
    let grid := keys.foldl (Grid.press editor.visibleLines) (Grid.ofEditor editor)
    ∃ after, editor.handleKeys keys = (after, .ok (keys.map fun _ => true)) ∧
      after.Sound ∧ 0 ≤ after.cursor ∧ after.cursor ≤ after.text.length ∧
      Grid.ofEditor after = grid ∧ after.text = grid.text ∧
      after.cursor = Text.offsetOf grid.text grid.row grid.column := by
  intro grid
  have hshows : editor.Shows (Grid.ofEditor editor) := ⟨h, hnonneg, hle, rfl⟩
  obtain ⟨after, hkeys, hafter⟩ := hshows.exists_handleKeys hkeys
  exact ⟨after, hkeys, hafter.sound, hafter.nonneg, hafter.le, hafter.grid, hafter.text_eq⟩

/-- Two lines are typed and joined to one. -/
theorem shows_handleKeys_joined :
    ∃ editor after,
      start (.new (.new hiddenFont .standard)) none ⟨24, 80, 8, 64, .console, []⟩ .empty 0 =
        .ok editor ∧
      editor.handleKeys [97, Key.enter, 99, Key.up, Key.deleteChar] =
        (after, .ok [true, true, true, true, true]) ∧
      after.text = ['a', 'c'] ∧ after.cursor = 1 := by
  obtain ⟨editor, hstart⟩ : ∃ editor, start (.new (.new hiddenFont .standard)) none
      ⟨24, 80, 8, 64, .console, []⟩ .empty 0 = .ok editor := ⟨_, rfl⟩
  have hsound : editor.Sound :=
    sound_start hstart (Buffer.consistent_new hiddenFont .standard) (Session.silent_new _)
  obtain ⟨hsession, hcursor, -⟩ := fields_of_start hstart
  have htext : editor.text = [] := by
    rw [text, hsession]
    rfl
  have hgrid : Grid.ofEditor editor = ⟨[[]], 0, 0⟩ := by
    rw [Grid.ofEditor, htext, hcursor]
    rfl
  have hkeys : ∀ key ∈ [97, Key.enter, 99, Key.up, Key.deleteChar],
      key ≠ Key.save ∧ key ≠ Key.quit := by
    decide
  have hpressed : [97, Key.enter, 99, Key.up, Key.deleteChar].foldl
      (Grid.press editor.visibleLines) ⟨[[]], 0, 0⟩ = ⟨[['a', 'c']], 0, 1⟩ := rfl
  have hle : editor.cursor ≤ editor.text.length := by
    rw [hcursor]
    exact Int.natCast_nonneg _
  obtain ⟨after, hhandled, -, -, -, -, hafter, hplace⟩ :=
    shows_handleKeys hsound (Int.le_of_eq hcursor.symm) hle hkeys
  rw [hgrid, hpressed] at hafter hplace
  exact ⟨editor, after, hstart, hhandled, hafter, hplace⟩

end Editor

end MarkupEditor
