import MarkupEditor.Proofs.Text.Lines

/-!
# Places in a text

A place cuts a text in two, and with it the line that it lies in: some whole lines
above, the characters left and right of the place in its line, and some whole lines
below.  Offsets, rows and columns are read off from these, and an edit at the place
changes no more than what lies next to it.
-/

namespace MarkupEditor.Text

/-- What lies around a place in a text. -/
structure Caret where
  above : List (List Char)
  left : List Char
  right : List Char
  below : List (List Char)

namespace Caret

def before (caret : Caret) : List Char := ended caret.above ++ caret.left

def behind (caret : Caret) : List Char := caret.right ++ begun caret.below

/-- What are to be lines are without line feeds. -/
structure Lined (caret : Caret) : Prop where
  above : ∀ line ∈ caret.above, '\n' ∉ line
  left : '\n' ∉ caret.left
  right : '\n' ∉ caret.right
  below : ∀ line ∈ caret.below, '\n' ∉ line

/-- A caret marks the place of an offset in a text. -/
structure Marks (caret : Caret) (text : List Char) (offset : Nat) : Prop extends Lined caret where
  text : text = caret.before ++ caret.behind
  offset : offset = caret.before.length

end Caret

variable {text : List Char} {offset : Nat} {caret : Caret}

/-- Every offset of a text has its place. -/
theorem exists_marks (h : offset ≤ text.length) : ∃ caret : Caret, caret.Marks text offset := by
  obtain ⟨above, left, hbefore, hleft, habove⟩ := exists_ended (text.take offset)
  obtain ⟨right, below, hbehind, hright, hbelow⟩ := exists_begun (text.drop offset)
  refine ⟨⟨above, left, right, below⟩, ⟨habove, hleft, hright, hbelow⟩, ?_, ?_⟩
  · rw [Caret.before, Caret.behind, ← hbefore, ← hbehind, List.take_append_drop]
  · rw [Caret.before, ← hbefore, List.length_take_of_le h]

namespace Caret.Marks

theorem lines_eq (h : caret.Marks text offset) :
    lines text = caret.above ++ (caret.left ++ caret.right) :: caret.below := by
  have hline : '\n' ∉ caret.left ++ caret.right := by
    rw [List.mem_append, not_or]
    exact ⟨h.left, h.right⟩
  rw [h.text, Caret.before, Caret.behind, List.append_assoc, lines_ended_append h.above,
    ← List.append_assoc, lines_append_begun hline h.below]

theorem positionOf_eq (h : caret.Marks text offset) :
    positionOf text offset = ⟨caret.above.length, caret.left.length⟩ := by
  have hbefore : Text.before text (offset : Int) = ended caret.above ++ caret.left := by
    rw [Text.before, if_pos (Int.natCast_nonneg _), Int.toNat_natCast, h.offset, h.text,
      List.take_left]
    rfl
  have hcount : (ended caret.above ++ caret.left).count '\n' = caret.above.length := by
    rw [List.count_append, count_ended h.above, List.count_eq_zero.2 h.left, Nat.add_zero]
  have hoffset : offset = (ended caret.above ++ caret.left).length := h.offset
  rw [positionOf, hbefore, hcount, lastLineLength_ended_append _ h.left, hoffset,
    List.length_append]
  congr 1
  omega

theorem offset_eq (h : caret.Marks text offset) :
    offset = extent caret.above + caret.left.length := by
  rw [h.offset, Caret.before, List.length_append, length_ended]

/-- The row and column of a place lead back to its offset. -/
theorem offsetOf_eq (h : caret.Marks text offset) :
    offsetOf text caret.above.length caret.left.length = offset := by
  have hrow : clamp (caret.above.length : Int) ((lines text).length - 1) = caret.above.length := by
    rw [h.lines_eq, List.length_append, List.length_cons, clamp, Int.toNat_natCast]
    omega
  have hline : (lines text).getD caret.above.length [] = caret.left ++ caret.right := by
    rw [h.lines_eq, List.getD_eq_getElem?_getD, List.getElem?_append_right (Nat.le_refl _),
      Nat.sub_self]
    rfl
  have hcolumn : clamp (caret.left.length : Int) (caret.left ++ caret.right).length =
      caret.left.length := by
    rw [List.length_append, clamp, Int.toNat_natCast]
    omega
  have habove : (lines text).take caret.above.length = caret.above := by
    rw [h.lines_eq, List.take_left]
  rw [offsetOf, hrow, hline, hcolumn, habove, h.offset_eq]

theorem eq_nil_of_offset_eq_zero (h : caret.Marks text 0) : caret.above = [] ∧ caret.left = [] := by
  have hlength := h.offset_eq
  have hleft : caret.left = [] := List.length_eq_zero_iff.1 (by omega)
  cases habove : caret.above with
  | nil => exact ⟨rfl, hleft⟩
  | cons line above =>
      rw [habove, extent] at hlength
      omega

theorem length_text (h : caret.Marks text offset) : text.length = offset + caret.behind.length := by
  rw [h.offset, ← List.length_append, ← h.text]

theorem le (h : caret.Marks text offset) : offset ≤ text.length := by
  rw [h.length_text]
  exact Nat.le_add_right _ _

theorem eq_nil_of_offset_eq_length (h : caret.Marks text text.length) :
    caret.right = [] ∧ caret.below = [] := by
  have hlength : text.length = text.length + caret.behind.length := h.length_text
  have hbehind : caret.right ++ begun caret.below = [] := by
    apply List.length_eq_zero_iff.1
    change caret.behind.length = 0
    omega
  obtain ⟨hright, hbelow⟩ := List.append_eq_nil_iff.1 hbehind
  cases hlines : caret.below with
  | nil => exact ⟨hright, rfl⟩
  | cons line below =>
      rw [hlines, begun_cons] at hbelow
      cases hbelow

end Caret.Marks

/-- The place of a column in a row. -/
def caretAt (text : List Char) (row column : Nat) : Caret where
  above := (lines text).take row
  left := ((lines text).getD row []).take column
  right := ((lines text).getD row []).drop column
  below := (lines text).drop (row + 1)

theorem clamp_le (value : Int) (bound : Nat) : clamp value bound ≤ bound := Nat.min_le_right _ _

theorem clamp_lt_length_lines (text : List Char) (line : Int) :
    clamp line ((lines text).length - 1) < (lines text).length := by
  have hpos : 0 < (lines text).length := List.length_pos_iff.2 (lines_ne_nil text)
  have hle : clamp line ((lines text).length - 1) ≤ (lines text).length - 1 := clamp_le ..
  omega

theorem getD_lines {row : Nat} (h : row < (lines text).length) :
    (lines text).getD row [] = (lines text)[row] := by
  rw [List.getD_eq_getElem?_getD, List.getElem?_eq_getElem h, Option.getD_some]

/-- A line and column brought into the text have their place at the offset of both. -/
theorem marks_offsetOf (text : List Char) (line column : Int) :
    (caretAt text (clamp line ((lines text).length - 1))
      (clamp column ((lines text).getD (clamp line ((lines text).length - 1)) []).length)).Marks
      text (offsetOf text line column) := by
  generalize hrow : clamp line ((lines text).length - 1) = row
  have hlt : row < (lines text).length := hrow ▸ clamp_lt_length_lines text line
  have hget : (lines text).getD row [] = (lines text)[row] := getD_lines hlt
  generalize hcolumn : clamp column ((lines text).getD row []).length = place
  have hrowLine : '\n' ∉ (lines text)[row] := not_mem_of_mem_lines (List.getElem_mem hlt)
  have hbefore : (caretAt text row place).before.length = offsetOf text line column := by
    have hle : place ≤ ((lines text).getD row []).length := hcolumn ▸ clamp_le ..
    rw [offsetOf, hrow, hcolumn, Caret.before, caretAt, List.length_append, length_ended,
      List.length_take_of_le hle]
  constructor
  case toLined =>
    constructor
    case above => exact fun other h => not_mem_of_mem_lines (List.mem_of_mem_take h)
    case left => exact fun h => hrowLine (hget ▸ List.mem_of_mem_take h)
    case right => exact fun h => hrowLine (hget ▸ List.mem_of_mem_drop h)
    case below => exact fun other h => not_mem_of_mem_lines (List.mem_of_mem_drop h)
  case text =>
    have hwhole : begun (lines text) = begun ((lines text).take row) ++
        '\n' :: ((lines text).getD row [] ++ begun ((lines text).drop (row + 1))) := by
      rw [hget, ← begun_cons, ← begun_append, ← List.drop_eq_getElem_cons hlt,
        List.take_append_drop]
    rw [begun_lines, begun_append_cons] at hwhole
    calc
      text = ended ((lines text).take row) ++
          ((lines text).getD row [] ++ begun ((lines text).drop (row + 1))) :=
        (List.cons.inj hwhole).2
      _ = ended ((lines text).take row) ++
          ((((lines text).getD row []).take place ++ ((lines text).getD row []).drop place) ++
            begun ((lines text).drop (row + 1))) := by
        rw [List.take_append_drop]
      _ = _ := by simp only [Caret.before, Caret.behind, caretAt, List.append_assoc]
  case offset => exact hbefore.symm

/-! ### Edits at a place -/

namespace Caret

/-- Characters between the two sides of a place are replaced. -/
theorem marks_replaceSpan (hlined : caret.Lined) (front removed new : List Char)
    (htext : text = front ++ (removed ++ caret.behind)) (hbefore : caret.before = front ++ new) :
    caret.Marks (replaceSpan front.length removed.length new text) (front.length + new.length) where
  toLined := hlined
  text := by
    rw [replaceSpan_eq, htext, hbefore, List.take_left, ← List.drop_drop, List.drop_left,
      List.drop_left]
  offset := by rw [hbefore, List.length_append]

theorem Marks.insert (h : caret.Marks text offset) {new : List Char} (hnew : '\n' ∉ new) :
    Marks { caret with left := caret.left ++ new } (replaceSpan offset 0 new text)
      (offset + new.length) := by
  have hlined : Lined { caret with left := caret.left ++ new } := by
    refine ⟨h.above, ?_, h.right, h.below⟩
    rw [List.mem_append, not_or]
    exact ⟨h.left, hnew⟩
  rw [h.offset]
  exact marks_replaceSpan hlined caret.before [] new h.text (List.append_assoc ..).symm

theorem Marks.split (h : caret.Marks text offset) :
    Marks ⟨caret.above ++ [caret.left], [], caret.right, caret.below⟩
      (replaceSpan offset 0 ['\n'] text) (offset + 1) := by
  have hlined : Lined ⟨caret.above ++ [caret.left], [], caret.right, caret.below⟩ := by
    refine ⟨?_, List.not_mem_nil, h.right, h.below⟩
    intro line hline
    obtain habove | hleft := List.mem_append.1 hline
    · exact h.above line habove
    · rw [List.mem_singleton.1 hleft]
      exact h.left
  have hbefore : before ⟨caret.above ++ [caret.left], [], caret.right, caret.below⟩ =
      caret.before ++ ['\n'] := by
    rw [before, ended_concat, List.append_nil, before, List.append_assoc]
  rw [h.offset]
  exact marks_replaceSpan hlined caret.before [] ['\n'] h.text hbefore

/-- Two places with one character between them, and the place that remains when this
character is gone. -/
inductive Around : Caret → Caret → Caret → Prop
  | char (above : List (List Char)) (left : List Char) (c : Char) (right : List Char)
      (below : List (List Char)) :
      Around ⟨above, left, c :: right, below⟩ ⟨above, left ++ [c], right, below⟩
        ⟨above, left, right, below⟩
  | lineFeed (above : List (List Char)) (left next : List Char) (below : List (List Char)) :
      Around ⟨above, left, [], next :: below⟩ ⟨above ++ [left], [], next, below⟩
        ⟨above, left, next, below⟩

variable {here next gone : Caret}

theorem Around.exists_between (h : Around here next gone) :
    ∃ c, here.behind = c :: next.behind ∧ next.before = here.before ++ [c] ∧
      gone.before = here.before ∧ gone.behind = next.behind := by
  cases h with
  | char above left c right below => exact ⟨c, rfl, (List.append_assoc ..).symm, rfl, rfl⟩
  | lineFeed above left next below =>
      refine ⟨'\n', rfl, ?_, rfl, rfl⟩
      rw [before, ended_concat, List.append_nil, before, List.append_assoc]

theorem Around.lined_next (h : Around here next gone) (hhere : here.Lined) : next.Lined := by
  cases h with
  | char above left c right below =>
      have hright : '\n' ≠ c ∧ '\n' ∉ right := by
        rw [← not_or, ← List.mem_cons]
        exact hhere.right
      refine ⟨hhere.above, ?_, hright.2, hhere.below⟩
      rw [List.mem_append, not_or, List.mem_singleton]
      exact ⟨hhere.left, hright.1⟩
  | lineFeed above left next below =>
      refine ⟨?_, List.not_mem_nil, hhere.below next List.mem_cons_self,
        fun line hline => hhere.below line (List.mem_cons_of_mem _ hline)⟩
      intro line hline
      obtain habove | hleft := List.mem_append.1 hline
      · exact hhere.above line habove
      · rw [List.mem_singleton.1 hleft]
        exact hhere.left

theorem Around.lined_here (h : Around here next gone) (hnext : next.Lined) : here.Lined := by
  cases h with
  | char above left c right below =>
      have hleft : '\n' ∉ left ∧ '\n' ∉ [c] := by
        rw [← not_or, ← List.mem_append]
        exact hnext.left
      refine ⟨hnext.above, hleft.1, ?_, hnext.below⟩
      rw [List.mem_cons, not_or]
      exact ⟨fun hc => hleft.2 (List.mem_singleton.2 hc), hnext.right⟩
  | lineFeed above left next below =>
      refine ⟨fun line hline => hnext.above line (List.mem_append_left _ hline),
        hnext.above left (List.mem_append_right _ List.mem_cons_self), List.not_mem_nil, ?_⟩
      intro line hline
      obtain rfl | hbelow := List.mem_cons.1 hline
      · exact hnext.right
      · exact hnext.below line hbelow

theorem Around.lined_gone (h : Around here next gone) (hhere : here.Lined) : gone.Lined := by
  cases h with
  | char above left c right below =>
      exact ⟨hhere.above, hhere.left, fun hc => hhere.right (List.mem_cons_of_mem _ hc),
        hhere.below⟩
  | lineFeed above left next below =>
      exact ⟨hhere.above, hhere.left, hhere.below next List.mem_cons_self,
        fun line hline => hhere.below line (List.mem_cons_of_mem _ hline)⟩

theorem Around.marks_next (h : Around here next gone) (hhere : here.Marks text offset) :
    next.Marks text (offset + 1) := by
  obtain ⟨c, hbehind, hbefore, -, -⟩ := h.exists_between
  refine ⟨h.lined_next hhere.toLined, ?_, ?_⟩
  · rw [hhere.text, hbehind, hbefore, List.append_assoc]
    rfl
  · rw [hhere.offset, hbefore, List.length_append]
    rfl

theorem Around.exists_marks_here (h : Around here next gone) (hnext : next.Marks text offset) :
    ∃ earlier, offset = earlier + 1 ∧ here.Marks text earlier := by
  obtain ⟨c, hbehind, hbefore, -, -⟩ := h.exists_between
  refine ⟨here.before.length, ?_, h.lined_here hnext.toLined, ?_, rfl⟩
  · rw [hnext.offset, hbefore, List.length_append]
    rfl
  · rw [hnext.text, hbehind, hbefore, List.append_assoc]
    rfl

theorem Around.marks_gone (h : Around here next gone) (hhere : here.Marks text offset) :
    gone.Marks (replaceSpan offset 1 [] text) offset := by
  obtain ⟨c, hbehind, -, hbefore, hrest⟩ := h.exists_between
  have htext : text = here.before ++ ([c] ++ gone.behind) := by
    rw [hhere.text, hbehind, hrest]
    rfl
  rw [hhere.offset]
  have hgone : gone.before = here.before ++ [] := by rw [hbefore, List.append_nil]
  exact marks_replaceSpan (h.lined_gone hhere.toLined) here.before [c] [] htext hgone

/-- Before the end of a text there is a character behind each place. -/
theorem Marks.exists_around_of_lt (h : caret.Marks text offset) (hlt : offset < text.length) :
    ∃ next gone, Around caret next gone := by
  obtain ⟨above, left, right, below⟩ := caret
  cases right with
  | cons c right => exact ⟨_, _, .char above left c right below⟩
  | nil =>
      cases below with
      | cons next below => exact ⟨_, _, .lineFeed above left next below⟩
      | nil =>
          have htext : text = before ⟨above, left, [], []⟩ := h.text.trans (List.append_nil _)
          rw [htext, h.offset] at hlt
          exact absurd hlt (Nat.lt_irrefl _)

/-- Behind the start of a text there is a character before each place. -/
theorem Marks.exists_around_of_ne_zero (h : caret.Marks text offset) (hne : offset ≠ 0) :
    ∃ here gone, Around here caret gone := by
  obtain ⟨above, left, right, below⟩ := caret
  obtain rfl | ⟨left, c, rfl⟩ := List.eq_nil_or_concat' left
  · obtain rfl | ⟨above, line, rfl⟩ := List.eq_nil_or_concat' above
    · exact absurd h.offset hne
    · exact ⟨_, _, .lineFeed above line right below⟩
  · exact ⟨_, _, .char above left c right below⟩

end Caret

end MarkupEditor.Text
