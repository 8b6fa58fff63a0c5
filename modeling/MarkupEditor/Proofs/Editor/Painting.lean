import MarkupEditor.Editor.Draw
import MarkupEditor.Proofs.Editor.Segments
import MarkupEditor.Proofs.Terminal.ColorPairs

/-!
# Painting with the colors of a palette

Painting asks for looks as it goes, and so defines color pairs in between its calls.  What
it writes is said with the looks that the colors have in the end: an answer once given
does not change.  It fails for a text that the screen does not take, and for nothing else.
-/

namespace MarkupEditor

open ColorPairs

variable {palette : Palette} {terminal : Terminal} {pairs : ColorPairs}

/-- A painting of a text, by the colors it has asked for and the calls it has come to, given
the looks of these colors.  Only a text that the screen does not take makes it fail. -/
structure Painting.Paints (palette : Palette) (terminal : Terminal) (before : ColorPairs)
    (painting : Painting) (text : List Char) (colors : List (Option Value))
    (calls : (Option Value → Look) → List Call) : Prop where
  failed : painting.failed = if terminal.device.takes text then none else some .nulInText
  later : Later palette terminal before painting.pairs
  draws : painting.failed = none →
    ∀ color ∈ colors, ∃ look, Draws palette terminal painting.pairs color look
  calls : painting.failed = none →
    ∀ look, (∀ color ∈ colors, Draws palette terminal painting.pairs color (look color)) →
      painting.calls = calls look

namespace Painting

variable {before : ColorPairs} {painting first : Painting} {next : ColorPairs → Painting}
  {text text' : List Char} {colors colors' : List (Option Value)}
  {calls calls' : (Option Value → Look) → List Call}

theorem andThen_of_failed {failure : Failure} (h : first.failed = some failure) :
    first.andThen next = first := by
  rw [andThen, h]

theorem andThen_of_not_failed (h : first.failed = none) :
    first.andThen next =
      ⟨first.calls ++ (next first.pairs).calls, (next first.pairs).pairs,
        first.requests ++ (next first.pairs).requests, (next first.pairs).failed⟩ := by
  rw [andThen, h]

theorem failed_andThen_eq_none_iff :
    (first.andThen next).failed = none ↔
      first.failed = none ∧ (next first.pairs).failed = none := by
  cases hfirst : first.failed with
  | none => rw [andThen_of_not_failed hfirst, eq_self_iff_true, true_and]
  | some failure =>
      rw [andThen_of_failed hfirst, hfirst]
      exact iff_of_false nofun fun hboth => nomatch hboth.1

theorem paints_nothing (palette : Palette) (terminal : Terminal) (pairs : ColorPairs) :
    (nothing pairs).Paints palette terminal pairs [] [] fun _ => [] where
  failed := (if_pos (Device.takes_nil _)).symm
  later := .refl palette terminal pairs
  draws _ _ h := absurd h List.not_mem_nil
  calls _ _ _ := rfl

theorem Paints.failed_eq_none_iff
    (h : painting.Paints palette terminal before text colors calls) :
    painting.failed = none ↔ terminal.device.takes text = true := by
  rw [h.failed]
  split
  · next htaken => exact iff_of_true rfl htaken
  · next hrefused => exact iff_of_false nofun hrefused

/-- Only whether the text is taken matters of it. -/
theorem Paints.of_takes_eq (h : painting.Paints palette terminal before text colors calls)
    (hsame : terminal.device.takes text' = terminal.device.takes text) :
    painting.Paints palette terminal before text' colors calls :=
  { h with failed := by rw [hsame, h.failed] }

/-- One painting after another writes what both write. -/
theorem Paints.andThen (h : first.Paints palette terminal before text colors calls)
    (h' : (next first.pairs).Paints palette terminal first.pairs text' colors' calls') :
    (first.andThen next).Paints palette terminal before (text ++ text') (colors ++ colors')
      fun look => calls look ++ calls' look := by
  have htakes := Device.takes_append terminal.device text text'
  cases hfirst : first.failed with
  | some failure =>
      have hrefused : terminal.device.takes text = false := by
        rw [← Bool.not_eq_true, ← h.failed_eq_none_iff, hfirst]
        nofun
      have hfailed := h.failed
      rw [hrefused] at htakes hfailed
      rw [andThen_of_failed hfirst]
      constructor
      case failed => rw [hfailed, htakes, Bool.false_and]
      case later => exact h.later
      case draws => exact fun hdone => nomatch hfirst.symm.trans hdone
      case calls => exact fun hdone => nomatch hfirst.symm.trans hdone
  | none =>
      have htaken : terminal.device.takes text = true := h.failed_eq_none_iff.1 hfirst
      rw [andThen_of_not_failed hfirst]
      constructor
      case failed => rw [htakes, htaken, Bool.true_and, ← h'.failed]
      case later => exact h.later.trans h'.later
      case draws =>
        intro hdone color hcolor
        obtain hbefore | hbehind := List.mem_append.1 hcolor
        · obtain ⟨look, hlook⟩ := h.draws hfirst color hbefore
          exact ⟨look, hlook.later h'.later⟩
        · exact h'.draws hdone color hbehind
      case calls =>
        intro hdone look hlook
        have hbefore (color : Option Value) (hcolor : color ∈ colors) :
            Draws palette terminal first.pairs color (look color) := by
          obtain ⟨earlier, hearlier⟩ := h.draws hfirst color hcolor
          have hsame :=
            (hearlier.later h'.later).look_eq (hlook color (List.mem_append_left _ hcolor))
          rwa [← hsame]
        rw [h.calls hfirst look hbefore,
          h'.calls hdone look fun color hcolor => hlook color (List.mem_append_right _ hcolor)]

end Painting

namespace Pane

/-- What fits of a text in a row of the pane. -/
theorem fit_eq {pane : Pane} {row : Nat} (hrow : row < pane.height) (column : Nat)
    (text : List Char) (look : Look) :
    pane.fit row column text look =
      if (pane.width - column).toNat = 0 then []
      else [⟨row, column, text.take (pane.width - column).toNat, look⟩] := by
  rw [fit]
  by_cases hroom : (pane.width - column).toNat = 0
  · rw [if_pos hroom, if_pos (by omega)]
  · rw [if_neg hroom, if_neg (by omega)]

end Pane

namespace Canvas

variable {canvas : Canvas} {row : Nat}

/-- Of a text the screen has to take what fits. -/
theorem write_eq (hrow : row < canvas.pane.height) (column : Nat) (text : List Char) (look : Look)
    (pairs : ColorPairs) :
    canvas.write row column text look pairs =
      if canvas.terminal.device.takes (text.take (canvas.pane.width - column).toNat) then
        ⟨canvas.pane.fit row column text look, pairs, [], none⟩
      else .fail pairs .nulInText := by
  rw [write, Pane.fit_eq hrow]
  by_cases hroom : (canvas.pane.width - column).toNat = 0
  · rw [if_pos hroom, hroom, List.take_zero, if_pos (Device.takes_nil _)]
    rfl
  · rw [if_neg hroom]
    simp only [List.all_cons, List.all_nil, Bool.and_true]

theorem paints_paint (hrow : row < canvas.pane.height) (column : Nat) (text : List Char)
    {color : Option Value} (hcolor : ∃ layer, color = palette.value? layer) (pairs : ColorPairs) :
    (canvas.paint row column text color pairs).Paints palette canvas.terminal pairs
      (text.take (canvas.pane.width - column).toNat) [color]
      fun look => canvas.pane.fit row column text (look color) := by
  obtain ⟨layer, rfl⟩ := hcolor
  obtain ⟨drawn, hasked⟩ := exists_asked palette canvas.terminal pairs layer
  have hdraws : Draws palette canvas.terminal drawn.pairs (palette.value? layer) drawn.look :=
    ⟨layer, rfl, hasked.settled⟩
  rw [paint, hasked.lookFor_eq]
  dsimp only
  rw [Painting.andThen_of_not_failed rfl, write_eq hrow]
  split
  · next htaken =>
    constructor
    case failed => exact (if_pos htaken).symm
    case later => exact hasked.later
    case draws =>
      intro _ color hcolor
      rw [List.mem_singleton.1 hcolor]
      exact ⟨drawn.look, hdraws⟩
    case calls =>
      intro _ look hlook
      rw [hdraws.look_eq (hlook _ List.mem_cons_self)]
      rfl
  · next hrefused => exact ⟨(if_neg hrefused).symm, hasked.later, nofun, nofun⟩

/-- The columns that the first piece leaves to those behind it. -/
theorem toNat_sub_add (width : Int) (column length : Nat) :
    (width - (column + length : Nat)).toNat = (width - column).toNat - length := by
  omega

/-- The first piece and those behind it. -/
theorem calls_cut_cons {pane : Pane} (hrow : row < pane.height) (column : Nat)
    (look : Option Value → Look) {color : Option Value} {length : Nat}
    {rest : List (Option Value × Nat)} {text : List Char} (hlength : length ≤ text.length) :
    pane.fit row column (text.take length) (look color) ++
        Segment.calls look row (column + length : Nat)
          (Segment.cut (pane.width - (column + length : Nat)).toNat rest (text.drop length)) =
      Segment.calls look row column
        (Segment.cut (pane.width - column).toNat ((color, length) :: rest) text) := by
  rw [Pane.fit_eq hrow, toNat_sub_add]
  generalize (pane.width - column).toNat = room
  by_cases hnone : room = 0
  · rw [if_pos hnone, hnone, Nat.zero_sub, Segment.cut_zero, Segment.cut_zero]
    rfl
  · rw [if_neg hnone, Segment.cut_cons_of_ne_zero hnone, Segment.calls, List.singleton_append]
    congr 1
    -- A piece that is cut off is the last one; any other has its whole length.
    by_cases hlast : room - length = 0
    · rw [hlast, Segment.cut_zero]
      rfl
    · have hwhole : ((text.take length).take room).length = length := by
        rw [List.length_take, List.length_take_of_le hlength]
        omega
      rw [hwhole, Int.natCast_add]

/-- Segments are written as far as there are columns. -/
theorem paints_paintPieces (hrow : row < canvas.pane.height) (column : Nat)
    {pieces : List (Option Value × Nat)} {text : List Char}
    (hlength : (Value.members pieces).length = text.length)
    (hcolors : ∀ piece ∈ pieces, ∃ layer, piece.1 = palette.value? layer) (pairs : ColorPairs) :
    (canvas.paintPieces row column pieces text pairs).Paints palette canvas.terminal pairs
      (text.take (canvas.pane.width - column).toNat) (pieces.map Prod.fst) fun look =>
        Segment.calls look row column
          (Segment.cut (canvas.pane.width - column).toNat pieces text) := by
  induction pieces generalizing column text pairs with
  | nil =>
      rw [List.length_eq_zero_iff.1 hlength.symm, List.take_nil]
      exact Painting.paints_nothing palette canvas.terminal pairs
  | cons piece rest ih =>
      obtain ⟨color, length⟩ := piece
      obtain ⟨hfirst, hrest⟩ := Segment.length_of_members hlength
      have hcolor : ∃ layer, color = palette.value? layer := hcolors _ List.mem_cons_self
      have hpaint := paints_paint hrow column (text.take length) hcolor pairs
      have hbehind := ih (column + length) hrest
        (fun piece hpiece => hcolors piece (List.mem_cons_of_mem _ hpiece))
        (canvas.paint row column (text.take length) color pairs).pairs
      have hboth := hpaint.andThen hbehind
      simp only [calls_cut_cons hrow column _ hfirst] at hboth
      rw [toNat_sub_add, Segment.take_take_append _ hfirst] at hboth
      exact hboth

/-- A line of code is written as the segments that its colors cut it into. -/
theorem paints_paintLine (hrow : row < canvas.pane.height) {line : List Char}
    {colors : List (Option Value)} (hexact : Value.Exact colors)
    (hlength : colors.length = line.length)
    (hcolors : ∀ color ∈ colors, ∃ layer, color = palette.value? layer) (pairs : ColorPairs) :
    (canvas.paintLine row line colors pairs).Paints palette canvas.terminal pairs
      (line.take canvas.pane.width.toNat) ((Value.groups colors).map Prod.fst) fun look =>
        Segment.calls look row 0
          (Segment.cut canvas.pane.width.toNat (Value.groups colors) line) := by
  have hmembers : Value.members (Value.groups colors) = colors := Value.members_groups colors hexact
  have hgroups : ∀ piece ∈ Value.groups colors, ∃ layer, piece.1 = palette.value? layer := by
    intro piece hpiece
    apply hcolors
    rw [← hmembers]
    have hpos : piece.2 ≠ 0 := Nat.ne_of_gt (Value.pos_of_mem_groups colors piece hpiece)
    exact List.mem_flatMap.2 ⟨piece, hpiece, List.mem_replicate.2 ⟨hpos, rfl⟩⟩
  have hpieces := paints_paintPieces hrow 0 (hmembers.symm ▸ hlength) hgroups pairs
  rw [paintLine, if_pos (Nat.le_of_eq hlength.symm)]
  simpa only [Int.natCast_zero, Int.sub_zero] using hpieces

/-- What is written of the cell that the cursor has in a line. -/
def cursorText (width : Int) (line : List Char) (column : Int) : List Char :=
  if 0 ≤ column ∧ column ≤ line.length then
    [line.getD column.toNat ' '].take (width - column).toNat
  else []

/-- The cell is one of the line that has been written, or a blank. -/
theorem takes_cursorText {device : Device} {width : Int} {line : List Char}
    (h : device.takes (line.take width.toNat) = true) (column : Int) :
    device.takes (cursorText width line column) = true := by
  apply Device.takes_of_subset h
  intro character hcharacter
  rw [cursorText] at hcharacter
  split at hcharacter
  · next hcolumn =>
    have hroom : (width - column).toNat ≠ 0 := by
      intro hnone
      rw [hnone] at hcharacter
      exact absurd hcharacter List.not_mem_nil
    rw [List.mem_singleton.1 (List.mem_of_mem_take hcharacter)]
    by_cases hend : column.toNat < line.length
    · left
      rw [List.getD_eq_getElem?_getD, List.getElem?_eq_getElem hend, List.mem_take_iff_getElem]
      exact ⟨column.toNat, by omega, rfl⟩
    · right
      rw [List.getD_eq_getElem?_getD, List.getElem?_eq_none (Nat.not_lt.1 hend)]
      rfl
  · exact absurd hcharacter List.not_mem_nil

theorem takes_append_cursorText (device : Device) (width : Int) (line : List Char) (column : Int) :
    device.takes (line.take width.toNat ++ cursorText width line column) =
      device.takes (line.take width.toNat) := by
  rw [Device.takes_append]
  cases hline : device.takes (line.take width.toNat) with
  | false => rfl
  | true => rw [takes_cursorText hline, Bool.true_and]

/-- The cursor is written in the cell that it has in a line, if there is such a column. -/
theorem paints_paintCursor (palette : Palette) (hrow : row < canvas.pane.height)
    (line : List Char) (column : Int) (pairs : ColorPairs) :
    (canvas.paintCursor row line column pairs).Paints palette canvas.terminal pairs
      (cursorText canvas.pane.width line column) [] fun _ =>
        if 0 ≤ column ∧ column ≤ line.length then
          canvas.pane.fit row column [line.getD column.toNat ' '] .reverse
        else [] := by
  rw [paintCursor, cursorText]
  split
  · next hcolumn =>
    obtain ⟨place, rfl⟩ := Int.eq_ofNat_of_zero_le hcolumn.1
    rw [write_eq hrow]
    split
    · next htaken =>
      exact ⟨(if_pos htaken).symm, .refl _ _ _, fun _ _ h => absurd h List.not_mem_nil,
        fun _ _ _ => rfl⟩
    · next hrefused => exact ⟨(if_neg hrefused).symm, .refl _ _ _, nofun, nofun⟩
  · exact Painting.paints_nothing palette canvas.terminal pairs

/-! ### Whatever the colors -/

/-- What has been painted is what the screen takes. -/
theorem takes_of_paint (hrow : row < canvas.pane.height) {column : Nat} {text : List Char}
    {color : Option Value} (h : (canvas.paint row column text color pairs).failed = none) :
    canvas.terminal.device.takes (text.take (canvas.pane.width - column).toNat) = true := by
  rw [paint] at h
  split at h
  · cases h
  · have hwritten := (Painting.failed_andThen_eq_none_iff.1 h).2
    rw [write_eq hrow] at hwritten
    split at hwritten
    · next htaken => exact htaken
    · cases hwritten

theorem takes_of_paintPieces (hrow : row < canvas.pane.height) {column : Nat}
    {pieces : List (Option Value × Nat)} {text : List Char}
    (hlength : (Value.members pieces).length = text.length)
    (h : (canvas.paintPieces row column pieces text pairs).failed = none) :
    canvas.terminal.device.takes (text.take (canvas.pane.width - column).toNat) = true := by
  induction pieces generalizing column text pairs with
  | nil =>
      rw [List.length_eq_zero_iff.1 hlength.symm, List.take_nil]
      exact Device.takes_nil _
  | cons piece rest ih =>
      obtain ⟨color, length⟩ := piece
      obtain ⟨hfirst, hrest⟩ := Segment.length_of_members hlength
      obtain ⟨hpaint, hbehind⟩ := Painting.failed_andThen_eq_none_iff.1 h
      have hpieces := ih hrest hbehind
      rw [toNat_sub_add] at hpieces
      rw [← Segment.take_take_append _ hfirst, Device.takes_append, takes_of_paint hrow hpaint,
        hpieces]
      rfl

theorem takes_of_paintLine (hrow : row < canvas.pane.height) {line : List Char}
    {colors : List (Option Value)} (hlength : colors.length ≤ line.length)
    (h : (canvas.paintLine row line colors pairs).failed = none) :
    canvas.terminal.device.takes (line.take canvas.pane.width.toNat) = true := by
  rw [paintLine] at h
  split at h
  · next hwhole =>
    have hmembers : (Value.members (Value.groups colors)).length = line.length := by
      rw [Value.length_members_groups, Nat.le_antisymm hlength hwhole]
    have htaken := takes_of_paintPieces hrow hmembers h
    simpa only [Int.natCast_zero, Int.sub_zero] using htaken
  · cases (Painting.failed_andThen_eq_none_iff.1 h).2

/-- Where a line can be written, the cursor can be, too. -/
theorem paintCursor_eq (hrow : row < canvas.pane.height) {line : List Char}
    (h : canvas.terminal.device.takes (line.take canvas.pane.width.toNat) = true) (column : Int)
    (pairs : ColorPairs) :
    canvas.paintCursor row line column pairs =
      ⟨if 0 ≤ column ∧ column ≤ line.length then
          canvas.pane.fit row column [line.getD column.toNat ' '] .reverse
        else [], pairs, [], none⟩ := by
  have hcell := takes_cursorText h column
  rw [cursorText] at hcell
  rw [paintCursor]
  split
  · next hcolumn =>
    obtain ⟨place, rfl⟩ := Int.eq_ofNat_of_zero_le hcolumn.1
    rw [if_pos hcolumn] at hcell
    rw [write_eq hrow, if_pos hcell]
  · rfl

end Canvas

end MarkupEditor
