import Mathlib.Order.Lattice
import MarkupEditor.Proofs.Text.Extent

/-!
# Offsets and positions

The offsets of a text and its positions, a line with a column that the line has, name the
same places in the same order.  A line and column that are no position of the text are
those of the nearest one: first the line is brought into the text, then the column into
the line.
-/

namespace MarkupEditor.Text

namespace Position

/-- The order in which a text is read. -/
def Before (first second : Position) : Prop :=
  first.line < second.line ∨ first.line = second.line ∧ first.column < second.column

/-- A line of a text and a column that it has. -/
structure Within (position : Position) (text : List Char) : Prop where
  line_lt : position.line < (lines text).length
  nonneg : 0 ≤ position.column
  column_le : position.column ≤ (lineAt text position.line).length

end Position

theorem clamp_eq (value : Int) (bound : Nat) :
    (clamp value bound : Int) = max 0 (min value bound) := by
  rw [clamp]
  omega

variable {text : List Char}

/-! ### There and back -/

theorem within_positionOf {offset : Nat} (h : offset ≤ text.length) :
    (positionOf text offset).Within text := by
  obtain ⟨caret, hmarks⟩ := exists_marks h
  have hline : (lineAt text caret.above.length).length =
      caret.left.length + caret.right.length := by
    rw [hmarks.lineAt_eq, List.length_append]
  rw [hmarks.positionOf_eq]
  constructor
  case line_lt => exact hmarks.lt_length_lines
  case nonneg => exact Int.natCast_nonneg _
  case column_le =>
    rw [hline]
    exact Int.ofNat_le.2 (Nat.le_add_right _ _)

theorem offsetOf_positionOf {offset : Nat} (h : offset ≤ text.length) :
    offsetOf text (positionOf text offset).line (positionOf text offset).column = offset := by
  obtain ⟨caret, hmarks⟩ := exists_marks h
  rw [hmarks.positionOf_eq]
  exact hmarks.offsetOf_eq

theorem offsetOf_le (text : List Char) (line column : Int) :
    offsetOf text line column ≤ text.length :=
  (marks_offsetOf text line column).le

/-- The position of the offset of any line and column: both brought into the text. -/
theorem positionOf_offsetOf (text : List Char) (line column : Int) :
    positionOf text (offsetOf text line column) =
      ⟨clamp line ((lines text).length - 1),
        clamp column (lineAt text (clamp line ((lines text).length - 1))).length⟩ := by
  have hmarks := marks_offsetOf text line column
  generalize hrow : clamp line ((lines text).length - 1) = row at hmarks ⊢
  have hlt : row < (lines text).length := hrow ▸ clamp_lt_length_lines text line
  have habove : (caretAt text row (clamp column (lineAt text row).length)).above.length = row := by
    rw [caretAt, List.length_take_of_le (Nat.le_of_lt hlt)]
  have hleft : (caretAt text row (clamp column (lineAt text row).length)).left.length =
      clamp column (lineAt text row).length := List.length_take_of_le (clamp_le _ _)
  rw [hmarks.positionOf_eq]
  exact congrArg₂ Position.mk habove (congrArg Int.ofNat hleft)

/-! ### The order of places -/

/-- A position lies as many characters behind the start of its line as its column says. -/
theorem Position.Within.offsetOf_eq {position : Position} (h : position.Within text) :
    (offsetOf text position.line position.column : Int) =
      lineStart text position.line + position.column := by
  have hline := h.line_lt
  have hrow : clamp position.line ((lines text).length - 1) = position.line := by
    rw [clamp]
    omega
  have hcolumn : (clamp position.column (lineAt text position.line).length : Int) =
      position.column := by
    rw [clamp_eq, min_eq_left h.column_le, max_eq_right h.nonneg]
  rw [offsetOf, hrow, Int.natCast_add]
  exact congrArg (_ + ·) hcolumn

theorem Position.Before.offsetOf_lt {first second : Position} (h : first.Within text)
    (h' : second.Within text) (hbefore : first.Before second) :
    offsetOf text first.line first.column < offsetOf text second.line second.column := by
  have hfirst := h.offsetOf_eq
  have hsecond := h'.offsetOf_eq
  obtain hline | ⟨hline, hcolumn⟩ := hbefore
  · -- Between the two there is at least the line feed of the first line.
    have hlater : lineStart text (first.line + 1) ≤ lineStart text second.line :=
      lineStart_mono text hline
    rw [lineStart_succ h.line_lt] at hlater
    have hle := h.column_le
    have hnonneg := h'.nonneg
    omega
  · have hstart : lineStart text first.line = lineStart text second.line := by rw [hline]
    omega

theorem Position.before_iff {first second : Position} (h : first.Within text)
    (h' : second.Within text) :
    first.Before second ↔
      offsetOf text first.line first.column < offsetOf text second.line second.column := by
  constructor
  · exact Before.offsetOf_lt h h'
  · intro hlt
    -- If the second one is not behind the first, it is the same or before it.
    by_contra hnot
    rw [Before, not_or, not_and, Nat.not_lt, Int.not_lt] at hnot
    obtain ⟨hline, hcolumn⟩ := hnot
    obtain hless | heq := Nat.lt_or_eq_of_le hline
    · exact Nat.lt_asymm hlt (Before.offsetOf_lt h' h (.inl hless))
    · have hfirst := h.offsetOf_eq
      have hsecond := h'.offsetOf_eq
      have hback := hcolumn heq.symm
      have hstart : lineStart text second.line = lineStart text first.line := by rw [heq]
      omega

theorem positionOf_before_iff {offset offset' : Nat} (h : offset ≤ text.length)
    (h' : offset' ≤ text.length) :
    (positionOf text offset).Before (positionOf text offset') ↔ offset < offset' := by
  rw [Position.before_iff (within_positionOf h) (within_positionOf h'), offsetOf_positionOf h,
    offsetOf_positionOf h']

/-- Each offset of a text has a position, which leads back to it.  Each line and column,
whatever they are, have an offset, which leads back to them as far as they are brought into
the text.  Both ways the order is kept. -/
theorem positionOf_offsetOf_inverse (text : List Char) :
    (∀ offset : Nat, offset ≤ text.length →
        (positionOf text offset).Within text ∧
          offsetOf text (positionOf text offset).line (positionOf text offset).column = offset) ∧
      (∀ line column : Int,
        offsetOf text line column ≤ text.length ∧
          ((positionOf text (offsetOf text line column)).line : Int) =
            max 0 (min line ((lines text).length - 1)) ∧
          (positionOf text (offsetOf text line column)).column =
            max 0 (min column
              (lineAt text (positionOf text (offsetOf text line column)).line).length)) ∧
      (∀ offset offset' : Nat, offset ≤ text.length → offset' ≤ text.length →
        (offset < offset' ↔ (positionOf text offset).Before (positionOf text offset'))) ∧
      ∀ first second : Position, first.Within text → second.Within text →
        (first.Before second ↔
          offsetOf text first.line first.column < offsetOf text second.line second.column) := by
  refine ⟨?_, ?_, ?_, ?_⟩
  · intro offset hle
    exact ⟨within_positionOf hle, offsetOf_positionOf hle⟩
  · intro line column
    have hpos : 0 < (lines text).length := List.length_pos_iff.2 (lines_ne_nil text)
    have hlast : (((lines text).length - 1 : Nat) : Int) = (lines text).length - 1 := by omega
    rw [positionOf_offsetOf]
    refine ⟨offsetOf_le text line column, ?_, clamp_eq _ _⟩
    rw [clamp_eq, hlast]
  · intro offset offset' hle hle'
    exact (positionOf_before_iff hle hle').symm
  · intro first second hfirst hsecond
    exact Position.before_iff hfirst hsecond

/-- The end of a text that ends in a line feed, reached by a column far to the right. -/
theorem positionOf_offsetOf_inverse_lastLine :
    let text := ['a', 'b', '\n', '\n', 'c', '\n']
    (6 ≤ text.length ∧ (positionOf text (6 : Nat)).Within text ∧
        offsetOf text (positionOf text (6 : Nat)).line (positionOf text (6 : Nat)).column = 6) ∧
      (positionOf text (offsetOf text 9 40)).column = max 0 (min 40 (lineAt text 3).length) ∧
      (positionOf text (2 : Nat)).Before (positionOf text (3 : Nat)) := by
  intro text
  obtain ⟨hinverse, hclamped, hoffsets, -⟩ := positionOf_offsetOf_inverse text
  have hle : 6 ≤ text.length := by decide
  have hline : (positionOf text (offsetOf text 9 40)).line = 3 := by decide
  obtain ⟨-, -, hcolumn⟩ := hclamped 9 40
  rw [hline] at hcolumn
  exact ⟨⟨hle, hinverse 6 hle⟩, hcolumn, (hoffsets 2 3 (by decide) (by decide)).1 (by decide)⟩

end MarkupEditor.Text
