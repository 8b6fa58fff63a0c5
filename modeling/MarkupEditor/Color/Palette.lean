import MarkupEditor.Color.Hex
import MarkupEditor.Markup.Layer

/-!
# Palettes

A palette has one color for each layer of markup.
-/

namespace MarkupEditor

structure Palette where
  tag : Color
  quoted : Color
  comment : Color
deriving DecidableEq

namespace Palette

/-- Blue tags, pale blue values and light gray comments. -/
def standard : Palette :=
  ⟨.ofBytes 0x00 0x75 0xB6, .ofBytes 0x6E 0x96 0xB1, .ofBytes 0xAA 0xAA 0xAA⟩

def color (palette : Palette) : Layer → Color
  | .tag => palette.tag
  | .quoted => palette.quoted
  | .comment => palette.comment

def setColor (palette : Palette) (layer : Layer) (color : Color) : Palette :=
  match layer with
  | .tag => { palette with tag := color }
  | .quoted => { palette with quoted := color }
  | .comment => { palette with comment := color }

end Palette

end MarkupEditor
