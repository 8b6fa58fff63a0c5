import MarkupEditor.Proofs.Value.Groups
import MarkupEditor.Terminal.Screen

/-!
# Lines in segments

A line whose characters have colors shows as segments of one color each.  They stand side
by side from the first column on, as far as there is room for them.
-/

namespace MarkupEditor

/-- A text in one color. -/
structure Segment where
  color : Option Value
  text : List Char

namespace Segment

/-- The text of segments side by side. -/
def line (segments : List Segment) : List Char := segments.flatMap text

/-- The color of each of their characters. -/
def colors (segments : List Segment) : List (Option Value) :=
  segments.flatMap fun segment => List.replicate segment.text.length segment.color

/-- The calls that write segments side by side from a column on. -/
def calls (look : Option Value → Look) (row : Int) : Int → List Segment → List Call
  | _, [] => []
  | column, segment :: rest =>
    ⟨row, column, segment.text, look segment.color⟩ ::
      calls look row (column + segment.text.length) rest

/-- The pieces of a line, as far as there is room. -/
def cut : (room : Nat) → List (Option Value × Nat) → List Char → List Segment
  | _, [], _ => []
  | room, (color, length) :: rest, text =>
    if room = 0 then []
    else ⟨color, (text.take length).take room⟩ :: cut (room - length) rest (text.drop length)

/-- Segments that show a text in its colors: none is empty, and neighbors differ in color. -/
structure Show (segments : List Segment) (text : List Char) (shown : List (Option Value)) :
    Prop where
  line : line segments = text
  colors : colors segments = shown
  isChain : (segments.map color).IsChain (· ≠ ·)
  ne_nil : ∀ segment ∈ segments, segment.text ≠ []

section

variable {color : Option Value} {length : Nat} {rest : List (Option Value × Nat)}
  {text : List Char}

/-- A text is long enough for the first piece, and the rest of it for the others. -/
theorem length_of_members (h : (Value.members ((color, length) :: rest)).length = text.length) :
    length ≤ text.length ∧ (Value.members rest).length = (text.drop length).length := by
  have hsum : length + (Value.members rest).length = text.length := by
    rw [← h, Value.members, Value.members, List.flatMap_cons, List.length_append,
      List.length_replicate]
  rw [List.length_drop]
  omega

theorem cut_cons_of_ne_zero {room : Nat} (hroom : room ≠ 0) :
    cut room ((color, length) :: rest) text =
      ⟨color, (text.take length).take room⟩ :: cut (room - length) rest (text.drop length) := by
  rw [cut, if_neg hroom]

end

theorem cut_zero (pieces : List (Option Value × Nat)) (text : List Char) :
    cut 0 pieces text = [] := by
  cases pieces <;> rfl

/-- A text as far as there is room: its first piece, and the rest in the room that this leaves. -/
theorem take_take_append (room : Nat) {length : Nat} {text : List Char}
    (h : length ≤ text.length) :
    (text.take length).take room ++ (text.drop length).take (room - length) = text.take room := by
  calc
    _ = (text.take length ++ text.drop length).take room := by
      rw [List.take_append, List.length_take_of_le h]
    _ = text.take room := by rw [List.take_append_drop]

/-- Room is given to the pieces in order, so the text is shown from its start on. -/
theorem line_cut (room : Nat) {pieces : List (Option Value × Nat)} {text : List Char}
    (h : (Value.members pieces).length = text.length) :
    line (cut room pieces text) = text.take room := by
  induction pieces generalizing room text with
  | nil =>
      rw [List.length_eq_zero_iff.1 h.symm, List.take_nil]
      rfl
  | cons piece rest ih =>
      obtain ⟨color, length⟩ := piece
      obtain ⟨hlength, hrest⟩ := length_of_members h
      by_cases hroom : room = 0
      · rw [hroom, cut_zero]
        rfl
      · calc
          line (cut room ((color, length) :: rest) text) =
              (text.take length).take room ++
                line (cut (room - length) rest (text.drop length)) := by
            rw [cut_cons_of_ne_zero hroom]
            rfl
          _ = (text.take length).take room ++ (text.drop length).take (room - length) := by
            rw [ih _ hrest]
          _ = text.take room := take_take_append room hlength

theorem colors_cut (room : Nat) {pieces : List (Option Value × Nat)} {text : List Char}
    (h : (Value.members pieces).length = text.length) :
    colors (cut room pieces text) = (Value.members pieces).take room := by
  induction pieces generalizing room text with
  | nil =>
      rw [Value.members, List.flatMap_nil, List.take_nil]
      rfl
  | cons piece rest ih =>
      obtain ⟨color, length⟩ := piece
      obtain ⟨hlength, hrest⟩ := length_of_members h
      by_cases hroom : room = 0
      · rw [hroom, cut_zero]
        rfl
      · have hfirst : ((text.take length).take room).length = min room length := by
          rw [List.length_take, List.length_take_of_le hlength]
        calc
          colors (cut room ((color, length) :: rest) text) =
              List.replicate ((text.take length).take room).length color ++
                colors (cut (room - length) rest (text.drop length)) := by
            rw [cut_cons_of_ne_zero hroom]
            rfl
          _ = (List.replicate length color).take room ++
                (Value.members rest).take (room - length) := by
            rw [ih _ hrest, hfirst, List.take_replicate]
          _ = (List.replicate length color ++ Value.members rest).take room := by
            rw [List.take_append, List.length_replicate]
          _ = (Value.members ((color, length) :: rest)).take room := rfl

theorem exists_of_mem_calls {look : Option Value → Look} {row column : Int}
    {segments : List Segment} {call : Call} (h : call ∈ calls look row column segments) :
    ∃ segment ∈ segments, call.look = look segment.color := by
  induction segments generalizing column with
  | nil => exact absurd h List.not_mem_nil
  | cons segment rest ih =>
      obtain rfl | hlater := List.mem_cons.1 h
      · exact ⟨segment, List.mem_cons_self, rfl⟩
      · obtain ⟨origin, horigin, hlook⟩ := ih hlater
        exact ⟨origin, List.mem_cons_of_mem _ horigin, hlook⟩

/-- No segment comes from elsewhere than from a piece. -/
theorem prefix_map_color_cut (room : Nat) (pieces : List (Option Value × Nat)) (text : List Char) :
    (cut room pieces text).map color <+: pieces.map Prod.fst := by
  induction pieces generalizing room text with
  | nil => exact List.prefix_refl []
  | cons piece rest ih =>
      obtain ⟨color, length⟩ := piece
      by_cases hroom : room = 0
      · rw [hroom, cut_zero]
        exact List.nil_prefix
      · rw [cut_cons_of_ne_zero hroom]
        exact List.cons_prefix_cons.2 ⟨rfl, ih _ _⟩

theorem ne_nil_of_mem_cut (room : Nat) {pieces : List (Option Value × Nat)} {text : List Char}
    (h : (Value.members pieces).length = text.length) (hpos : ∀ piece ∈ pieces, 0 < piece.2) :
    ∀ segment ∈ cut room pieces text, segment.text ≠ [] := by
  induction pieces generalizing room text with
  | nil => exact fun _ hmem => absurd hmem List.not_mem_nil
  | cons piece rest ih =>
      obtain ⟨color, length⟩ := piece
      obtain ⟨hlength, hrest⟩ := length_of_members h
      by_cases hroom : room = 0
      · rw [hroom, cut_zero]
        exact fun _ hmem => absurd hmem List.not_mem_nil
      · rw [cut_cons_of_ne_zero hroom]
        intro segment hsegment
        obtain rfl | hlater := List.mem_cons.1 hsegment
        · have hsome : 0 < length := hpos _ List.mem_cons_self
          rw [← List.length_pos_iff, List.length_take, List.length_take_of_le hlength]
          omega
        · exact ih _ hrest (fun piece hpiece => hpos piece (List.mem_cons_of_mem _ hpiece))
            segment hlater

/-- The groups of its colors cut a line into segments that show it. -/
theorem show_cut_groups (room : Nat) {text : List Char} {shown : List (Option Value)}
    (hexact : Value.Exact shown) (hlength : shown.length = text.length) :
    Show (cut room (Value.groups shown) text) (text.take room) (shown.take room) := by
  have hmembers : Value.members (Value.groups shown) = shown := Value.members_groups shown hexact
  have hsame : (Value.members (Value.groups shown)).length = text.length := by
    rw [hmembers, hlength]
  constructor
  case line => exact line_cut room hsame
  case colors => rw [colors_cut room hsame, hmembers]
  case isChain =>
    exact List.IsChain.prefix (Value.isChain_groups shown) (prefix_map_color_cut room _ text)
  case ne_nil => exact ne_nil_of_mem_cut room hsame (Value.pos_of_mem_groups shown)

end Segment

end MarkupEditor
