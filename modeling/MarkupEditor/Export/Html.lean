import MarkupEditor.Export.Token
import MarkupEditor.Text.Lines

/-!
# Markup shown as HTML

Each token becomes a span with the class of its layer.  A span never reaches
over the end of a line: it is closed there and opened again on the next line.
The last line is ended even where the text does not end it.
-/

namespace MarkupEditor.Html

/-- Text with the three characters that HTML gives a meaning replaced. -/
def escape (text : List Char) : List Char :=
  text.flatMap fun c =>
    if c = '&' then "&amp;".toList
    else if c = '<' then "&lt;".toList
    else if c = '>' then "&gt;".toList
    else [c]

/-- What opens the span of a token; text outside of markup has no span. -/
def opening : Option Layer → String
  | some .tag => "<span class=\"nt\">"
  | some .quoted => "<span class=\"s\">"
  | some .comment => "<span class=\"c\">"
  | none => ""

/-- What closes a span. -/
def closing (opened : String) : String := if opened.isEmpty then "" else "</span>"

/-- The lines written so far, the line being written, and what opened the span
it is in. -/
structure Writer where
  written : String
  line : String
  opened : String

namespace Writer

def start : Writer := ⟨"", "", ""⟩

def emit (writer : Writer) (text : String) : Writer :=
  { writer with written := writer.written ++ text ++ "\n", line := "" }

/-- Ends the present line with a piece of a token. -/
def endLine (tag : String) (writer : Writer) (piece : String) : Writer :=
  if !writer.line.isEmpty then
    if writer.opened ≠ tag && !piece.isEmpty then
      writer.emit (writer.line ++ closing writer.opened ++ tag ++ piece ++ closing tag)
    else writer.emit (writer.line ++ piece ++ closing writer.opened)
  else if !piece.isEmpty then writer.emit (tag ++ piece ++ closing tag)
  else writer.emit ""

/-- Goes on in the present line with a piece of a token. -/
def continueLine (tag : String) (writer : Writer) (piece : String) : Writer :=
  if piece.isEmpty then writer
  else if writer.line.isEmpty then { writer with line := tag ++ piece, opened := tag }
  else if writer.opened ≠ tag then
    { writer with line := writer.line ++ closing writer.opened ++ tag ++ piece, opened := tag }
  else { writer with line := writer.line ++ piece }

/-- Writes a token. -/
def token (writer : Writer) (token : Token) : Writer :=
  let pieces := (Text.lines (escape token.text)).map String.ofList
  let tag := opening token.layer
  continueLine tag (pieces.dropLast.foldl (endLine tag) writer) (pieces.getLastD "")

/-- Ends the last line. -/
def finish (writer : Writer) : String :=
  if writer.line.isEmpty then writer.written
  else (writer.emit (writer.line ++ closing writer.opened)).written

end Writer

/-- The lines of HTML for some tokens. -/
def lines (tokens : List Token) : String := (tokens.foldl Writer.token Writer.start).finish

/-- The lines inside of the element that holds them. -/
def block (tokens : List Token) : String :=
  "<div class=\"highlight\"><pre><span></span>" ++ lines tokens ++ "</pre></div>\n"

end MarkupEditor.Html
