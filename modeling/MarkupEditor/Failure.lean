import MarkupEditor.Value.Printed

/-!
# Reasons to refuse a request

Every request that cannot be carried out is refused for one of these reasons,
and each reason has one wording.
-/

namespace MarkupEditor

inductive Failure where
  /-- A range with a negative location or length. -/
  | invalidRange (location length : Int)
  /-- A range given by the wrong number of coordinates. -/
  | coordinateCount (given : Nat)
  /-- A range that ends behind the text. -/
  | rangeOutOfBounds (first stop : Nat) (length : Int)
  /-- An offset that holds no character. -/
  | offsetOutOfBounds (offset length : Int)
  /-- A list that should hold one value per character. -/
  | valueCount (expected : Int) (given : Nat)
  /-- An edit transaction closed that was never opened. -/
  | unmatchedEnd
  /-- A value that is not a color. -/
  | invalidColor (value : Value)
  | archiveRefused
  | pasteRefused (type : String)
  | terminalTooSmall (width height : Int)
  /-- A run, a line or a character asked for by a position that holds none. -/
  | missingItem
  | missingFile (path : String)
  | isDirectory (path : String)
  | notDirectory (path : String)
  | nameTooLong (path : String)
  /-- A path with a character that no name can hold. -/
  | nulInPath
  /-- A text with a character that no terminal can show. -/
  | nulInText
  /-- A table asked for a value that it cannot hold, because a list or a record
  is part of it. -/
  | notAKey (part : Value)

namespace Failure

def message : Failure → String
  | .invalidRange location length => s!"Invalid range: location={location}, length={length}"
  | .coordinateCount given =>
    if given < 2 then s!"not enough values to unpack (expected 2, got {given})"
    else "too many values to unpack (expected 2)"
  | .rangeOutOfBounds first stop length =>
    s!"Range {first}..{stop} out of bounds for length {length}"
  | .offsetOutOfBounds offset length => s!"Offset {offset} out of bounds for length {length}"
  | .valueCount expected given => s!"Expected {expected} values, got {given}"
  | .unmatchedEnd => "end_editing() called without a matching begin_editing()"
  | .invalidColor value => "Invalid color: " ++ value.printed ++ ". Expected #RGB or #RRGGBB"
  | .archiveRefused => "TextBuffer cannot be restored from an archive"
  | .pasteRefused type =>
    "TextBuffer cannot be built from a pasted item of type " ++ quoted type
  | .terminalTooSmall width height =>
    s!"Terminal too small. Minimum size: 20x5, Current size: {width}x{height}"
  | .missingItem => "list index out of range"
  | .missingFile path => "[Errno 2] No such file or directory: " ++ quoted path
  | .isDirectory path => "[Errno 21] Is a directory: " ++ quoted path
  | .notDirectory path => "[Errno 20] Not a directory: " ++ quoted path
  | .nameTooLong path => "[Errno 36] File name too long: " ++ quoted path
  | .nulInPath => "embedded null byte"
  | .nulInText => "embedded null character"
  | .notAKey part =>
    "unhashable type: " ++ quoted (match part with
      | .list _ => "list"
      | _ => "dict")

/-- Whether it is the disk that refuses a request. -/
def isOfDisk : Failure → Bool
  | .missingFile _ | .isDirectory _ | .notDirectory _ | .nameTooLong _ => true
  | _ => false

end Failure

/-- What succeeds as a whole has succeeded in its first part. -/
theorem exists_of_bind_eq_ok {ε α β : Type} {first : Except ε α}
    {next : α → Except ε β} {result : β} (h : first >>= next = .ok result) :
    ∃ value, first = .ok value ∧ next value = .ok result := by
  cases first with
  | error failure => cases h
  | ok value => exact ⟨value, rfl, h⟩

theorem bind_eq_of_eq_ok {ε α β : Type} {first : Except ε α} {value : α}
    (h : first = .ok value) (next : α → Except ε β) : first >>= next = next value := by
  rw [h]
  rfl

end MarkupEditor
