import MarkupEditor.Buffer.Edit

/-!
# Tokens

For display outside of the editor a buffer is cut into tokens: the longest
pieces of text that show one layer of markup.
-/

namespace MarkupEditor

structure Token where
  layer : Option Layer
  text : List Char
deriving DecidableEq

namespace Token

/-- The name that formatters know a kind of token by. -/
def kindName : Option Layer → String
  | some .tag => "Token.Name.Tag"
  | some .quoted => "Token.Literal.String"
  | some .comment => "Token.Comment"
  | none => "Token.Text"

/-- Puts a character in front of tokens: into the first one, if it shows the same layer. -/
def cons (layer : Option Layer) (c : Char) : List Token → List Token
  | [] => [⟨layer, [c]⟩]
  | first :: rest =>
    if first.layer = layer then ⟨layer, c :: first.text⟩ :: rest
    else ⟨layer, [c]⟩ :: first :: rest

/-- The tokens of a text whose characters show the given layers. -/
def ofLayers : List (Option Layer) → List Char → List Token
  | layer :: layers, c :: text => cons layer c (ofLayers layers text)
  | _, _ => []

end Token

namespace Buffer

/-- The tokens of a buffer. -/
def tokens (buffer : Buffer) : List Token :=
  Token.ofLayers (layersOf buffer.roles buffer.text) buffer.text

end Buffer

end MarkupEditor
