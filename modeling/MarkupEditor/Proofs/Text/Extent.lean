import MarkupEditor.Proofs.Text.Caret

/-!
# Where lines begin

Each line of a text takes up its characters and one more for its line feed, the last one
too.  So lines begin at ever later offsets, and a place lies within its own line only.
-/

namespace MarkupEditor.Text

/-- The characters of a line. -/
def lineAt (text : List Char) (row : Nat) : List Char := (lines text).getD row []

/-- The offset at which a line begins. -/
def lineStart (text : List Char) (row : Nat) : Nat := extent ((lines text).take row)

theorem extent_append (first second : List (List Char)) :
    extent (first ++ second) = extent first + extent second := by
  rw [← length_ended, ← length_ended, ← length_ended, ended, List.flatMap_append,
    List.length_append]
  rfl

theorem extent_lines (text : List Char) : extent (lines text) = text.length + 1 := by
  have hbegun : (begun (lines text)).length = extent (lines text) := by
    induction lines text with
    | nil => rfl
    | cons line rest ih =>
        rw [begun_cons, List.length_cons, List.length_append, ih, extent]
        omega
  rw [← hbegun, begun_lines, List.length_cons]

variable {text : List Char} {row : Nat}

theorem lineStart_succ (h : row < (lines text).length) :
    lineStart text (row + 1) = lineStart text row + (lineAt text row).length + 1 := by
  rw [lineStart, List.take_succ_eq_append_getElem h, extent_append, lineStart, lineAt, getD_lines h]
  rfl

theorem lineStart_mono (text : List Char) {first second : Nat} (h : first ≤ second) :
    lineStart text first ≤ lineStart text second := by
  obtain ⟨more, rfl⟩ := Nat.exists_eq_add_of_le h
  rw [lineStart, lineStart, List.take_add, extent_append]
  exact Nat.le_add_right _ _

/-- A line lies in its text. -/
theorem lineStart_add_le (h : row < (lines text).length) :
    lineStart text row + (lineAt text row).length ≤ text.length := by
  have hwhole : lineStart text (lines text).length = text.length + 1 := by
    rw [lineStart, List.take_length, extent_lines]
  have hnext := lineStart_mono text h
  rw [lineStart_succ h, hwhole] at hnext
  omega

namespace Caret.Marks

variable {caret : Caret} {offset : Nat}

theorem lt_length_lines (h : caret.Marks text offset) :
    caret.above.length < (lines text).length := by
  rw [h.lines_eq, List.length_append, List.length_cons]
  omega

theorem lineAt_eq (h : caret.Marks text offset) :
    lineAt text caret.above.length = caret.left ++ caret.right := by
  rw [lineAt, h.lines_eq, List.getD_eq_getElem?_getD, List.getElem?_append_right (Nat.le_refl _),
    Nat.sub_self]
  rfl

/-- The column of a place is counted from where its line begins. -/
theorem offset_eq_lineStart_add (h : caret.Marks text offset) :
    offset = lineStart text caret.above.length + caret.left.length := by
  rw [lineStart, h.lines_eq, List.take_left]
  exact h.offset_eq

/-- Of all lines a place lies within its own. -/
theorem within_iff (h : caret.Marks text offset) (hrow : row < (lines text).length) :
    lineStart text row ≤ offset ∧ offset ≤ lineStart text row + (lineAt text row).length ↔
      row = caret.above.length := by
  have hlength : (lineAt text caret.above.length).length =
      caret.left.length + caret.right.length := by rw [h.lineAt_eq, List.length_append]
  have hoffset := h.offset_eq_lineStart_add
  constructor
  · rintro ⟨hle, hge⟩
    rcases Nat.lt_trichotomy row caret.above.length with hbefore | rfl | hbehind
    · have hlater := lineStart_mono text hbefore
      rw [lineStart_succ hrow] at hlater
      omega
    · rfl
    · have hlater := lineStart_mono text hbehind
      rw [lineStart_succ h.lt_length_lines] at hlater
      omega
  · rintro rfl
    omega

end Caret.Marks

end MarkupEditor.Text
