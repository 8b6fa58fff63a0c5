import MarkupEditor.Buffer.Basic

/-!
# Coloring passes

A pass gives every character the font of the buffer and the color of the layer
it shows, and takes the color of all other characters away.  It is done in one
go over the runs; `layeredRuns` is the same pass laid down layer by layer, with
one change of an attribute for each span of markup.
-/

namespace MarkupEditor.Buffer

/-- The attribute value of the color of a layer. -/
def colorValue (buffer : Buffer) (layer : Layer) : Value :=
  .text (buffer.palette.color layer).toText

/-- The color of every character, given the spans of markup. -/
def colors (buffer : Buffer) (items : List (Span × Layer)) : List (Option Value) :=
  showing buffer.length (items.map fun item => (item.1, buffer.colorValue item.2))

/-- Runs a pass and counts the spans of markup it colored. -/
def colorize (buffer : Buffer) : Attempt Buffer (Buffer × Nat) := do
  let items := buffer.roles.classify buffer.text
  let withFont ← buffer.addAttribute fontName buffer.font buffer.whole
  let colored ← withFont.assignAttribute colorName (buffer.colors items)
  pure (colored, items.length)

/-- The runs after a pass that is laid down layer by layer. -/
def layeredRuns (buffer : Buffer) : Attempt RunList RunList := do
  let bare ← buffer.runs.removeAttribute colorName buffer.whole
  let withFont ← bare.addAttribute fontName buffer.font buffer.whole
  (buffer.roles.classify buffer.text).foldlM
    (fun runs item => runs.addAttribute colorName (buffer.colorValue item.2) item.1) withFont

end MarkupEditor.Buffer
