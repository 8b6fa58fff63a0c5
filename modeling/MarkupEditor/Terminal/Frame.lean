import MarkupEditor.Editor.Draw

/-!
# Frames

What the panes of the editor hold, as the text that makes a terminal show it.
-/

namespace MarkupEditor.Frame

/-- The foreground color last defined for a color pair. -/
def foreground? (screen : Screen) (pair : Nat) : Option Int :=
  screen.trace.findSome? fun request =>
    match request with
    | .definePair number foreground _ => if number = pair then some foreground else none
    | _ => none

/-- The sequence that makes the terminal draw with a look. -/
def setLook (screen : Screen) (look : Look) : String :=
  let color := match foreground? screen (look / 256 % 256) with
    | some foreground => s!"\x1b[38;5;{foreground}m"
    | none => ""
  "\x1b[0m" ++ (if look &&& Look.bold ≠ 0 then "\x1b[1m" else "")
    ++ (if look &&& Look.reverse ≠ 0 then "\x1b[7m" else "") ++ color

/-- The texts of a pane whose upper left cell lies at some place of the screen. -/
def pane (screen : Screen) (row column : Int) (shown : Option Pane) : String :=
  match shown with
  | none => ""
  | some pane =>
    String.join (pane.calls.map fun call =>
      let line := row + call.row + 1
      let start := column + call.column + 1
      s!"\x1b[{line};{start}H" ++ setLook screen call.look ++ String.ofList call.text)

/-- The whole frame. -/
def ofEditor (editor : Editor) : String :=
  "\x1b[0m\x1b[2J" ++ pane editor.screen 0 0 editor.numbers
    ++ pane editor.screen 0 Editor.gutterWidth editor.code
    ++ pane editor.screen editor.visibleLines 0 editor.statusLine ++ "\x1b[0m"

end MarkupEditor.Frame
