import MarkupEditor.Export.Token
import MarkupEditor.Text.Lines

/-!
# Markup shown in a terminal of 256 colors

Each piece of a token on a line is put between escape sequences that set the
nearest color the terminal has and reset it.
-/

namespace MarkupEditor.Escapes

/-- The sixteen colors with names of their own. -/
def named : List Color :=
  [.ofBytes 0x00 0x00 0x00, .ofBytes 0xcd 0x00 0x00, .ofBytes 0x00 0xcd 0x00,
   .ofBytes 0xcd 0xcd 0x00, .ofBytes 0x00 0x00 0xee, .ofBytes 0xcd 0x00 0xcd,
   .ofBytes 0x00 0xcd 0xcd, .ofBytes 0xe5 0xe5 0xe5, .ofBytes 0x7f 0x7f 0x7f,
   .ofBytes 0xff 0x00 0x00, .ofBytes 0x00 0xff 0x00, .ofBytes 0xff 0xff 0x00,
   .ofBytes 0x5c 0x5c 0xff, .ofBytes 0xff 0x00 0xff, .ofBytes 0x00 0xff 0xff,
   .ofBytes 0xff 0xff 0xff]

/-- The levels of the components in the color cube. -/
def levels : List (Fin 256) := [0x00, 0x5f, 0x87, 0xaf, 0xd7, 0xff].map Color.component

/-- The cube of colors, red changing slowest. -/
def cube : List Color :=
  levels.flatMap fun red => levels.flatMap fun green => levels.map fun blue => ⟨red, green, blue⟩

/-- The grays between black and white. -/
def grays : List Color :=
  (List.range 24).map fun step =>
    let level := 8 + 10 * step
    .ofBytes level level level

/-- All colors of the terminal, by number. -/
def colors : List Color := named ++ cube ++ grays

/-- The sequence that sets a color. -/
def setColor (color : Color) : String :=
  "\x1b[38;5;" ++ toString (nearestIn color colors) ++ "m"

/-- The sequence that sets the color back. -/
def resetColor : String := "\x1b[39m"

/-- A piece of a token that lies on one line. -/
def piece (palette : Palette) (layer : Option Layer) (text : List Char) : String :=
  match layer with
  | some layer =>
    if text.isEmpty then ""
    else setColor (palette.color layer) ++ String.ofList text ++ resetColor
  | none => String.ofList text

def token (palette : Palette) (token : Token) : String :=
  "\n".intercalate ((Text.lines token.text).map (piece palette token.layer))

/-- The whole text of a buffer with its escape sequences. -/
def render (buffer : Buffer) : String :=
  String.join (buffer.tokens.map (token buffer.palette))

end MarkupEditor.Escapes
