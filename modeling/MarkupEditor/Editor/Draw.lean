import MarkupEditor.Editor.State

/-!
# Drawing

A refresh scrolls just far enough to show the line of the cursor and then draws
the gutter, the code and the status line.  Each line of code is written in
pieces of one color, and the character under the cursor once more in reverse.
A text that the screen cannot take ends the refresh; line numbers hold none.
-/

namespace MarkupEditor

/-- What painting comes to. -/
structure Painting where
  /-- The texts written, in order. -/
  calls : List Call
  /-- The color pairs afterwards. -/
  pairs : ColorPairs
  requests : List Request
  failed : Option Failure

namespace Painting

def nothing (pairs : ColorPairs) : Painting := ⟨[], pairs, [], none⟩

def fail (pairs : ColorPairs) (failure : Failure) : Painting := ⟨[], pairs, [], some failure⟩

/-- Goes on painting, unless the painting has failed. -/
def andThen (first : Painting) (next : ColorPairs → Painting) : Painting :=
  match first.failed with
  | some _ => first
  | none =>
    let second := next first.pairs
    ⟨first.calls ++ second.calls, second.pairs, first.requests ++ second.requests, second.failed⟩

end Painting

/-- Where colored text is painted. -/
structure Canvas where
  pane : Pane
  terminal : Terminal

namespace Canvas

/-- Writes a text as far as it fits, if the screen can take that much of it. -/
def write (canvas : Canvas) (row column : Int) (text : List Char) (look : Look)
    (pairs : ColorPairs) : Painting :=
  let calls := canvas.pane.fit row column text look
  if calls.all fun call => canvas.terminal.device.takes call.text then ⟨calls, pairs, [], none⟩
  else .fail pairs .nulInText

/-- Paints a text of one color. -/
def paint (canvas : Canvas) (row column : Nat) (text : List Char) (color : Option Value)
    (pairs : ColorPairs) : Painting :=
  match pairs.lookFor canvas.terminal color with
  | .error failure => .fail pairs failure
  | .ok drawn =>
    Painting.andThen ⟨[], drawn.pairs, drawn.requests, none⟩
      (canvas.write row column text drawn.look)

/-- Paints the pieces of a line, each given by its color and length. -/
def paintPieces (canvas : Canvas) (row : Nat) :
    Nat → List (Option Value × Nat) → List Char → ColorPairs → Painting
  | _, [], _, pairs => .nothing pairs
  | column, (color, length) :: rest, text, pairs =>
    (canvas.paint row column (text.take length) color pairs).andThen fun pairs =>
      canvas.paintPieces row (column + length) rest (text.drop length) pairs

/-- Paints a line whose characters have the given colors.  A piece is not
painted where the colors end within it. -/
def paintLine (canvas : Canvas) (row : Nat) (line : List Char) (colors : List (Option Value))
    (pairs : ColorPairs) : Painting :=
  let pieces := Value.groups colors
  if line.length ≤ colors.length then canvas.paintPieces row 0 pieces line pairs
  else
    (canvas.paintPieces row 0 pieces.dropLast line pairs).andThen fun pairs =>
      .fail pairs .missingItem

/-- Paints the cell of the cursor, if its column is one of a line: the character
there, or a blank at the end of the line. -/
def paintCursor (canvas : Canvas) (row : Nat) (line : List Char) (column : Int)
    (pairs : ColorPairs) : Painting :=
  if 0 ≤ column ∧ column ≤ line.length then
    canvas.write row column [line.getD column.toNat ' '] .reverse pairs
  else .nothing pairs

end Canvas

/-- What there is to draw as code. -/
structure CodeView where
  lines : Array (List Char)
  /-- The color of every character. -/
  colors : Array (Option Value)
  /-- The first line to draw, and the offset it begins at. -/
  topLine : Int
  topOffset : Nat
  cursor : Int

namespace CodeView

/-- Draws lines into the rows from `row` on; the line of that row begins at `offset`. -/
def draw (view : CodeView) (canvas : Canvas) : (rows row offset : Nat) → ColorPairs → Painting
  | 0, _, _, pairs => .nothing pairs
  | rows + 1, row, offset, pairs =>
    let number := view.topLine + row
    if (view.lines.size : Int) ≤ number then .nothing pairs
    else
      match Text.itemAt? view.lines number with
      | none => .fail pairs .missingItem
      | some line =>
        let stop := offset + line.length
        let colors := (view.colors.extract offset stop).toList
        ((canvas.paintLine row line colors pairs).andThen
            (canvas.paintCursor row line (view.cursor - offset))).andThen fun pairs =>
          view.draw canvas rows (row + 1) (stop + 1) pairs

end CodeView

namespace Editor

def cursorPosition (editor : Editor) : Text.Position :=
  Text.positionOf editor.text editor.cursor

/-- The first line to show so that a line is among those shown, and nearest to
the present first line. -/
def scrolled (topLine visible line : Int) : Int :=
  if line < topLine then line
  else if topLine + visible ≤ line then line - visible + 1
  else topLine

def scrollToCursor (editor : Editor) : Editor :=
  { editor with
    topLine := scrolled editor.topLine editor.visibleLines editor.cursorPosition.line }

/-- The color an attribute set gives, if any. -/
def colorOf (attributes : AttributeSet) : Option Value :=
  match attributes.get? colorName with
  | some .null => none
  | color => color

/-- The color of every character. -/
def colors (editor : Editor) : List (Option Value) :=
  editor.session.buffer.runs.runs.flatMap fun run =>
    List.replicate run.length.toNat (colorOf run.attributes)

/-- A line number as the gutter shows it: to the right of four columns, and a blank. -/
def gutterText (number : Int) : List Char :=
  let digits := (toString number).toList
  List.replicate (4 - digits.length) ' ' ++ digits ++ [' ']

/-- The rows of the gutter that have a line to number. -/
def numberedRows (editor : Editor) : List Nat :=
  List.range (min editor.visibleLines ((Text.lines editor.text).length - editor.topLine)).toNat

/-- How the number of a line is drawn while the cursor is on some line. -/
def numberLook (device : Device) (line current : Int) : Look :=
  let plain := device.pair ColorPairs.lineNumberPair
  if line = current then plain ||| Look.bold else plain

def drawNumbers (editor : Editor) : Editor :=
  match editor.numbers with
  | none => editor
  | some pane =>
    let current := editor.cursorPosition.line
    let calls := editor.numberedRows.flatMap fun (row : Nat) =>
      let line := editor.topLine + row
      pane.fit row 0 (gutterText (line + 1)) (numberLook editor.screen.device line current)
    request { editor with numbers := some (pane.display calls) } [.clear .numbers, .flush .numbers]

def codeView (editor : Editor) : CodeView :=
  let lines := Text.lines editor.text
  { lines := lines.toArray
    colors := editor.colors.toArray
    topLine := editor.topLine
    topOffset := Text.extent (Text.before lines editor.topLine)
    cursor := editor.cursor }

def drawCode (editor : Editor) : Editor × Option Failure :=
  match editor.code with
  | none => (editor, none)
  | some pane =>
    let view := editor.codeView
    let painting := view.draw ⟨pane, editor.screen.terminal⟩ editor.visibleLines.toNat 0
      view.topOffset editor.pairs
    let drawn := request
      { editor with code := some (pane.display painting.calls), pairs := painting.pairs }
      (.clear .code :: painting.requests)
    (if painting.failed.isNone then drawn.request [.flush .code] else drawn, painting.failed)

/-- The last name of a path. -/
def baseName (path : String) : String := (path.splitOn "/").getLastD ""

/-- What the status line says about the file and the cursor. -/
def summary (editor : Editor) : String :=
  let name := match editor.filename with
    | some path => if path.isEmpty then "[New File]" else baseName path
    | none => "[New File]"
  let position := editor.cursorPosition
  let line := position.line + 1
  let column := position.column + 1
  name ++ (if editor.modified then " [+]" else "")
    ++ s!" | Ln {line}, Col {column} | ^W Save  ^X Quit"

/-- The status that is still to be shown. -/
def freshStatus? (editor : Editor) : Option String :=
  match editor.status with
  | some message =>
    if !message.isEmpty && editor.clock - editor.statusSince < statusDuration then some message
    else none
  | none => none

/-- What the status line says, and how it is drawn. -/
def statusText (editor : Editor) : String × Look :=
  let plain := editor.screen.device.pair ColorPairs.statusPair
  match editor.freshStatus? with
  | some message => (message, plain)
  | none => (editor.summary, plain ||| Look.bold)

def drawStatus (editor : Editor) : Editor × Option Failure :=
  match editor.statusLine with
  | none => (editor, none)
  | some pane =>
    let (message, look) := editor.statusText
    let painting := Canvas.write ⟨pane, editor.screen.terminal⟩ 0 0 message.toList look editor.pairs
    let drawn := request { editor with statusLine := some (pane.display painting.calls) }
      [.clear .status]
    (if painting.failed.isNone then drawn.request [.flush .status] else drawn, painting.failed)

/-- Draws everything; where something cannot be drawn, what comes behind it is not. -/
def refresh (editor : Editor) : Editor × Option Failure :=
  match (drawNumbers editor.scrollToCursor).drawCode with
  | (drawn, some failure) => (drawn, some failure)
  | (drawn, none) =>
    match drawn.drawStatus with
    | (shown, some failure) => (shown, some failure)
    | (shown, none) => (shown.request [.update], none)

end Editor

end MarkupEditor
