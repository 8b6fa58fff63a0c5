import MarkupEditor.Storage.Utf8

/-!
# Text files

A text is written as it is.  Reading turns all line ends into line feeds: a
carriage return with the line feed behind it, and one that stands alone.
-/

namespace MarkupEditor.TextFile

/-- Line ends of every kind as line feeds. -/
def unifyLineEnds : List Char → List Char
  | [] => []
  | '\r' :: '\n' :: rest => '\n' :: unifyLineEnds rest
  | c :: rest => (if c = '\r' then '\n' else c) :: unifyLineEnds rest

def read (bytes : List UInt8) : List Char := unifyLineEnds (Utf8.decode bytes)

def write (text : List Char) : List UInt8 := Utf8.encode text

end MarkupEditor.TextFile
