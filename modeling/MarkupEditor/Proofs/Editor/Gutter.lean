import Mathlib.Data.List.Nodup
import MarkupEditor.Proofs.Editor.Drawn
import MarkupEditor.Proofs.Terminal.Device
import MarkupEditor.Proofs.Text.Position

/-!
# Scrolling and the gutter

Scrolling moves the first line shown as little as the line of the cursor allows.  The gutter
then has a number in each row that shows a line, and the row of the cursor is bold.
-/

namespace MarkupEditor

/-! ### Scrolling -/

namespace Editor

/-- A line is among so many lines from a first one on. -/
def InView (topLine visible line : Int) : Prop := topLine ≤ line ∧ line < topLine + visible

theorem scrolled_of_inView {topLine visible line : Int} (h : InView topLine visible line) :
    scrolled topLine visible line = topLine := by
  rw [scrolled, if_neg (Int.not_lt.2 h.1), if_neg (Int.not_le.2 h.2)]

theorem inView_scrolled {visible : Int} (h : 0 < visible) (topLine line : Int) :
    InView (scrolled topLine visible line) visible line := by
  rw [InView, scrolled]
  split
  · omega
  · split <;> omega

/-- Any other first line from which a line is in view lies farther off. -/
theorem scrolled_nearest {topLine visible line other : Int} (h : InView other visible line)
    (hother : other ≠ scrolled topLine visible line) :
    (scrolled topLine visible line - topLine).natAbs < (other - topLine).natAbs := by
  obtain ⟨hle, hlt⟩ := h
  rw [scrolled] at hother ⊢
  split at hother
  · next habove =>
    rw [if_pos habove]
    omega
  · next habove =>
    rw [if_neg habove]
    split at hother
    · next hbelow =>
      rw [if_pos hbelow]
      omega
    · next hbelow =>
      rw [if_neg hbelow]
      omega

end Editor

/-! ### Numbers -/

theorem nul_not_mem_repr (number : Nat) : '\x00' ∉ number.repr.toList := by
  rw [Nat.repr, String.toList_ofList]
  intro hnul
  have hdigit : Char.isDigit '\x00' = true :=
    Nat.isDigit_of_mem_toDigits (by decide) (by decide) hnul
  exact absurd hdigit (by decide)

/-- Digits, blanks and a minus sign are all that a number is written with. -/
theorem nul_not_mem_gutterText (number : Int) : '\x00' ∉ Editor.gutterText number := by
  have hdigits : '\x00' ∉ (toString number).toList := by
    cases number with
    | ofNat number => exact nul_not_mem_repr number
    | negSucc number =>
        have hnumber := nul_not_mem_repr (number + 1)
        change '\x00' ∉ ("-" ++ (number + 1).repr).toList
        rw [String.toList_append, List.mem_append]
        exact fun hnul => hnul.elim (by decide) hnumber
  rw [Editor.gutterText]
  simp only [List.mem_append, List.mem_replicate, List.mem_singleton, not_or]
  exact ⟨⟨fun hblank => absurd hblank.2 (by decide), hdigits⟩, by decide⟩

/-- The gutter can be written on any device. -/
theorem write_gutterText (canvas : Canvas) (row number : Int) (look : Look) (pairs : ColorPairs) :
    canvas.write row 0 (Editor.gutterText number) look pairs =
      ⟨canvas.pane.fit row 0 (Editor.gutterText number) look, pairs, [], none⟩ := by
  rw [Canvas.write, if_pos]
  rw [List.all_eq_true]
  intro call hcall
  rw [Pane.fit] at hcall
  split at hcall
  · exact absurd hcall List.not_mem_nil
  · rw [List.mem_singleton.1 hcall, Device.takes_iff]
    exact fun _ hnul => nul_not_mem_gutterText number (List.mem_of_mem_take hnul)

/-- A pane has a number in each of the rows that show one of so many lines, from a first one
on, and in no other row, and the row of one line is the only bold one. -/
structure Pane.Numbers (pane : Pane) (count : Nat) (topLine visible line : Int) : Prop where
  rows : ∀ row : Int, (∃ call ∈ pane.calls, call.row = row) ↔
    0 ≤ row ∧ row < visible ∧ topLine + row < count
  once : (pane.calls.map Call.row).Nodup
  text : ∀ call ∈ pane.calls, call.column = 0 ∧ call.text =
    ((toString (topLine + call.row + 1)).toList.leftpad 4 ' ' ++ [' ']).take 6
  bold : (pane.calls.filter fun call => call.look &&& Look.bold ≠ 0).map Call.row =
    [line - topLine]

theorem numberLook_and_bold (device : Device) (line current : Int) :
    Editor.numberLook device line current &&& Look.bold ≠ 0 ↔ line = current := by
  rw [Editor.numberLook]
  split
  · next hline => exact iff_of_true (by cases device <;> decide) hline
  · next hline => exact iff_of_false (by cases device <;> decide) hline

namespace Editor

variable {editor : Editor} {pane : Pane}

/-- The call that numbers a row. -/
def numberCall (editor : Editor) (row : Nat) : Call where
  row := row
  column := 0
  text := (gutterText (editor.topLine + row + 1)).take 6
  look := numberLook editor.screen.device (editor.topLine + row) editor.cursorPosition.line

theorem mem_numberedRows {row : Nat} :
    row ∈ editor.numberedRows ↔
      (row : Int) < editor.visibleLines ∧
        editor.topLine + row < (Text.lines editor.text).length := by
  rw [numberedRows, List.mem_range]
  omega

theorem nodup_numberedRows (editor : Editor) : editor.numberedRows.Nodup := List.nodup_range

theorem drawNumbers_eq (hpane : editor.numbers = some pane)
    (hheight : pane.height = editor.visibleLines) (hwidth : pane.width = gutterWidth) :
    editor.drawNumbers.numbers =
      some (pane.display (editor.numberedRows.map editor.numberCall)) := by
  have hcalls : (editor.numberedRows.flatMap fun (row : Nat) =>
      pane.fit row 0 (gutterText (editor.topLine + row + 1))
        (numberLook editor.screen.device (editor.topLine + row) editor.cursorPosition.line)) =
          editor.numberedRows.map editor.numberCall := by
    rw [List.map_eq_flatMap]
    apply List.flatMap_congr
    intro row hrow
    have hinside : (row : Int) < pane.height := hheight ▸ (mem_numberedRows.1 hrow).1
    rw [Pane.fit, if_neg (by rw [hwidth, gutterWidth]; omega), hwidth]
    rfl
  rw [drawNumbers, hpane]
  exact congrArg (fun calls => some (pane.display calls)) hcalls

/-- The rows with a line to number are those of the lines in view. -/
theorem numbers_display (pane : Pane)
    (hline : InView editor.topLine editor.visibleLines editor.cursorPosition.line)
    (hcount : editor.cursorPosition.line < (Text.lines editor.text).length) :
    (pane.display (editor.numberedRows.map editor.numberCall)).Numbers
      (Text.lines editor.text).length editor.topLine editor.visibleLines
      editor.cursorPosition.line where
  rows := by
    intro row
    constructor
    · rintro ⟨call, hcall, rfl⟩
      obtain ⟨place, hplace, rfl⟩ := List.mem_map.1 hcall
      exact ⟨Int.natCast_nonneg place, mem_numberedRows.1 hplace⟩
    · rintro ⟨hnonneg, hrow⟩
      obtain ⟨place, rfl⟩ := Int.eq_ofNat_of_zero_le hnonneg
      exact ⟨editor.numberCall place, List.mem_map_of_mem (mem_numberedRows.2 hrow), rfl⟩
  once := by
    have hrows : ((editor.numberedRows.map editor.numberCall).map Call.row) =
        editor.numberedRows.map Int.ofNat := List.map_map
    change ((editor.numberedRows.map editor.numberCall).map Call.row).Nodup
    rw [hrows]
    exact List.Nodup.map (fun _ _ hsame => Int.ofNat.inj hsame) (nodup_numberedRows editor)
  text := by
    intro call hcall
    obtain ⟨place, -, rfl⟩ := List.mem_map.1 hcall
    exact ⟨rfl, rfl⟩
  bold := by
    obtain ⟨place, hplace⟩ := Int.eq_ofNat_of_zero_le (Int.sub_nonneg_of_le hline.1)
    have hmem : place ∈ editor.numberedRows := by
      rw [mem_numberedRows]
      have hlt := hline.2
      omega
    have hbold : ∀ row : Nat, ((fun call : Call => decide (call.look &&& Look.bold ≠ 0)) ∘
        editor.numberCall) row = (row == place) := by
      intro row
      rw [Bool.eq_iff_iff, Function.comp, decide_eq_true_iff, beq_iff_eq]
      refine (numberLook_and_bold _ _ _).trans ?_
      omega
    have hrows : editor.numberedRows.filter
        ((fun call : Call => decide (call.look &&& Look.bold ≠ 0)) ∘ editor.numberCall) =
          [place] := by
      rw [List.filter_congr fun row _ => hbold row, List.filter_beq,
        List.count_eq_one_of_mem (nodup_numberedRows editor) hmem]
      rfl
    change ((editor.numberedRows.map editor.numberCall).filter _).map Call.row = _
    rw [List.filter_map, hrows, hplace]
    rfl

end Editor

end MarkupEditor
