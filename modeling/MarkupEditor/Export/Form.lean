import MarkupEditor.Export.Escapes
import MarkupEditor.Export.Page

/-!
# Forms of export

A buffer can be exported in several forms: as the tokens themselves, as the
style that colors them, as plain text, as HTML with more or less around it, and
as text for a terminal.
-/

namespace MarkupEditor

inductive Form where
  | tokens
  | style
  | plain
  | html
  | page
  | bareLines
  | terminal
deriving DecidableEq

/-- An exported buffer. -/
inductive Rendering where
  /-- Tokens by the name of their kind. -/
  | tokens (tokens : List (String × String))
  /-- The digits of the color of each kind of token that has a color. -/
  | style (rules : List (String × Option String))
  | text (text : String)

namespace Buffer

/-- The color of the common kinds of tokens.  A kind that is narrower than
another one has the same color. -/
def styleRules (buffer : Buffer) : List (String × Option String) :=
  let digits (layer : Layer) : Option String :=
    some (String.ofList (buffer.palette.color layer).digits)
  [("Token.Name.Tag", digits .tag), ("Token.Literal.String", digits .quoted),
   ("Token.Comment", digits .comment), ("Token.Text", none), ("Token.Name", none),
   ("Token.Literal.String.Double", digits .quoted), ("Token.Comment.Single", digits .comment)]

def exportAs (buffer : Buffer) : Form → Rendering
  | .tokens =>
    .tokens (buffer.tokens.map fun token => (Token.kindName token.layer, String.ofList token.text))
  | .style => .style buffer.styleRules
  | .plain => .text (String.ofList buffer.text)
  | .html => .text (Html.block buffer.tokens)
  | .page => .text (Page.render buffer)
  | .bareLines => .text (Html.lines buffer.tokens)
  | .terminal => .text (Escapes.render buffer)

end Buffer

end MarkupEditor
