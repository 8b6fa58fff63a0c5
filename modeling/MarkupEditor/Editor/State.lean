import MarkupEditor.Log
import MarkupEditor.Terminal.ColorPairs
import MarkupEditor.Text.Lines

/-!
# The state of the editor

The editor shows one buffer in three panes: a gutter with line numbers, the code
beside it, and a status line below both.  It is told of every edit of the buffer
and remembers whether characters have changed since the text was last the same
as its file.
-/

namespace MarkupEditor

structure Editor where
  session : Session
  filename : Option String
  /-- The offset that keys work at. -/
  cursor : Int
  /-- The first line shown. -/
  topLine : Int
  /-- Whether the text has changed since it was loaded or saved. -/
  modified : Bool
  status : Option String
  /-- When the status was set. -/
  statusSince : Instant
  /-- The size the panes are made for. -/
  height : Int
  width : Int
  numbers : Option Pane
  code : Option Pane
  statusLine : Option Pane
  pairs : ColorPairs
  /-- Whether the last key asked to quit and was answered by a warning. -/
  quitRequested : Bool
  screen : Screen
  disk : Disk
  clock : Instant
  /-- What the editor has to tell the log, in order. -/
  records : List Record

namespace Editor

def text (editor : Editor) : List Char := editor.session.buffer.text

/-- The width of the gutter. -/
def gutterWidth : Int := 6

/-- How long a status is shown. -/
def statusDuration : Int := 3000

/-- The number of lines that are shown at once; the status takes one of the rows. -/
def visibleLines (editor : Editor) : Int := editor.height - 1

def request (editor : Editor) (requests : List Request) : Editor :=
  { editor with screen := editor.screen.request requests }

def tell (editor : Editor) (record : Record) : Editor :=
  { editor with records := editor.records ++ [record] }

def setStatus (editor : Editor) (message : String) : Editor :=
  { editor with status := some message, statusSince := editor.clock }

/-- Whether something that happened is news of changed characters for the view. -/
def isCharacterChange : Entry → Bool
  | .notified .view event => event.mask &&& characterChange ≠ 0
  | _ => false

/-- Takes the news out of the journal of the session. -/
def takeNews (editor : Editor) (session : Session) : Editor :=
  { editor with
    session := { session with journal := [] }
    modified := editor.modified || session.journal.any isCharacterChange
    records := editor.records ++ session.journal.reverse.filterMap Entry.record? }

/-- Runs a command on the buffer. -/
def command (editor : Editor) (command : Command) : Editor × Outcome :=
  let outcome := editor.session.run command
  (editor.takeNews outcome.session, outcome)

/-- Runs a command for its effect. -/
def perform (editor : Editor) (command : Command) : Editor × Option Failure :=
  let (changed, outcome) := editor.command command
  (changed, outcome.failure?)

/-- Makes panes of the size that the editor knows of. -/
def openPanes (editor : Editor) : Editor :=
  let rows := editor.visibleLines
  let codeWidth := editor.width - gutterWidth
  request
    { editor with
      numbers := some (.new rows gutterWidth)
      code := some (.new rows codeWidth)
      statusLine := some (.new 1 editor.width) }
    [.openPane .numbers rows gutterWidth 0 0, .openPane .code rows codeWidth 0 gutterWidth,
      .openPane .status 1 editor.width rows 0]

/-- Follows a change of the size of the screen. -/
def resize (editor : Editor) : Editor :=
  openPanes (request { editor with height := editor.screen.height, width := editor.screen.width }
    [.clear .screen])

/-- An editor for a buffer, if the screen has room for it. -/
def start (session : Session) (filename : Option String) (screen : Screen) (disk : Disk)
    (clock : Instant) : Except Failure Editor :=
  if screen.height < 5 ∨ screen.width < 20 then
    .error (.terminalTooSmall screen.width screen.height)
  else
    let lineNumberColor : Int := if 8 < screen.colors then 8 else 7
    let ready := screen.request
      [.startColor, .definePair ColorPairs.lineNumberPair lineNumberColor (-1),
        .definePair ColorPairs.statusPair 7 (-1)]
    .ok (openPanes
      { session := { session with buffer := session.buffer.addObserver .view }
        filename := filename
        cursor := 0
        topLine := 0
        modified := false
        status := none
        statusSince := 0
        height := screen.height
        width := screen.width
        numbers := none
        code := none
        statusLine := none
        pairs := .new (256 ≤ screen.colors)
        quitRequested := false
        screen := ready
        disk := disk
        clock := clock
        records := [] })

end Editor

end MarkupEditor
