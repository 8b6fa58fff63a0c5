import MarkupEditor.Markup.Pattern

/-!
# Layers of markup

Markup is colored in layers: tags, over them the quoted values inside of tags,
and over both the comments.  What a character shows is decided by the last span
that covers it.
-/

namespace MarkupEditor

inductive Layer where
  | tag
  | quoted
  | comment
deriving DecidableEq

namespace Layer

def name : Layer → String
  | .tag => "tag"
  | .quoted => "quoted"
  | .comment => "comment"

end Layer

/-- Which pattern finds the spans of each layer. -/
structure Roles where
  tag : Pattern
  quoted : Pattern
  comment : Pattern
deriving DecidableEq

namespace Roles

/-- Every layer is found by the pattern made for it. -/
def standard : Roles := ⟨.tag, .quoted, .comment⟩

/-- The spans of a text with their layers, in the order in which they cover each
other: each tag is followed by the quoted values inside of it, and all comments
come last. -/
def classify (roles : Roles) (text : List Char) : List (Span × Layer) :=
  ((roles.tag.search text).flatMap fun tag =>
    (tag.span, .tag) :: (roles.quoted.findInside tag).map (·, .quoted))
  ++ (roles.comment.findAll text).map (·, .comment)

end Roles

/-- Puts so many values into the places from one on.  Where there are no more places,
the values are added at the end. -/
def setCells {α : Type} (value : α) : (start count : Nat) → Array α → Array α
  | _, 0, cells => cells
  | start, count + 1, cells =>
    setCells value (start + 1) count
      (if h : start < cells.size then cells.set start value h else cells.push value)

/-- The values take the place of as many cells. -/
theorem toList_setCells {α : Type} (value : α) (start count : Nat) (cells : Array α) :
    (setCells value start count cells).toList =
      cells.toList.take start ++ List.replicate count value ++
        cells.toList.drop (start + count) := by
  induction count generalizing start cells with
  | zero => rw [setCells, List.replicate_zero, List.append_nil, Nat.add_zero, List.take_append_drop]
  | succ count ih =>
    have hplace : start + 1 + count = start + (count + 1) := by omega
    rw [setCells, ih, hplace, List.replicate_succ, List.append_cons]
    by_cases h : start < cells.size
    · have hlength : start < cells.toList.length := h
      have htake : (cells.toList.set start value).take (start + 1) =
          cells.toList.take start ++ [value] := by
        rw [List.take_succ_eq_append_getElem (by simpa using hlength), List.getElem_set_self,
          List.take_set_of_le (Nat.le_refl start)]
      rw [dif_pos h, Array.toList_set, htake, List.drop_set_of_lt (by omega)]
    · have hend : cells.toList.length ≤ start := Nat.not_lt.1 h
      have hlength : (cells.toList ++ [value]).length ≤ start + 1 := by
        rw [List.length_append]
        exact Nat.succ_le_succ hend
      rw [dif_neg h, Array.toList_push, List.take_of_length_le hlength,
        List.take_of_length_le hend, List.drop_of_length_le (by omega),
        List.drop_of_length_le (by omega)]

/-- Puts a mark on every cell of a span. -/
def overlay {α : Type} (cells : Array (Option α)) (span : Span) (mark : α) : Array (Option α) :=
  setCells (some mark) span.start span.length cells

/-- What shows of spans laid over each other on a text of some length. -/
def showing {α : Type} (length : Nat) (items : List (Span × α)) : List (Option α) :=
  (items.foldl (fun cells item => overlay cells item.1 item.2) (Array.replicate length none)).toList

/-- The layer that each character of a text shows, if any. -/
def layersOf (roles : Roles) (text : List Char) : List (Option Layer) :=
  showing text.length (roles.classify text)

end MarkupEditor
