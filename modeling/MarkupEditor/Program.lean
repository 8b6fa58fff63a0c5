import MarkupEditor.CommandLine.Help
import MarkupEditor.CommandLine.Options
import MarkupEditor.Editor.Draw
import MarkupEditor.Editor.Keys

/-!
# The program

The program reads its command line, opens the editor on a terminal, and then
draws and waits for input in turn until it is told to quit or is interrupted.
Whatever the editor has to tell the log is written after each step.
-/

namespace MarkupEditor

/-- What the terminal has for the editor when it waits for input. -/
inductive Input where
  | key (code : Int)
  /-- Nothing has come in time. -/
  | nothing
  | interrupt
  /-- The terminal could not be asked. -/
  | trouble
  | resize (height width : Int)
  /-- Nothing has come, and some milliseconds have passed. -/
  | wait (milliseconds : Int)
deriving DecidableEq

/-- How a run of the program ends. -/
inductive Ending where
  | returned
  | exited (code : Nat)
  /-- A failure that the program does not report itself. -/
  | escaped (failure : Failure)

/-- What is left of a run of the program. -/
structure Report where
  ending : Ending
  output : String
  errors : String
  disk : Disk
  screen : Screen
  /-- The editor, if it could be opened. -/
  editor : Option Editor
  /-- How many inputs have been read. -/
  inputsRead : Nat

namespace Failure

/-- Whether the program reports a failure and exits: one of a value or of a file. -/
def isReported : Failure → Bool
  | .invalidRange _ _ | .coordinateCount _ | .valueCount _ _ | .invalidColor _ => true
  | .terminalTooSmall _ _ | .nulInPath | .nulInText => true
  | failure => failure.isOfDisk

end Failure

namespace Program

/-- The name of the logger above those of all parts of the program. -/
def loggerName : String := "htmlstorage"

def logSource : String := "htmlstorage.__main__"

/-- Writes what the editor has to tell into the log. -/
def writeLog (logger : Logger) (editor : Editor) : Editor :=
  { editor with disk := logger.write editor.clock editor.disk editor.records, records := [] }

/-- Opens the file that was asked for; a file that does not exist is only announced. -/
def openFile (editor : Editor) (file : Option String) : Editor × Option Failure :=
  match Editor.named? file with
  | none => (editor, none)
  | some name =>
    if editor.disk.exists? name then editor.load name
    else (editor.setStatus ("Created new file: " ++ name), none)

/-- Follows the screen if its size is no longer the one drawn for. -/
def fit (editor : Editor) : Editor :=
  if editor.screen.height ≠ editor.height ∨ editor.screen.width ≠ editor.width then editor.resize
  else editor

def resizeScreen (editor : Editor) (height width : Int) : Editor :=
  { editor with screen := { editor.screen with height := height, width := width } }

/-- What happens after an input. -/
inductive Next where
  | goOn
  | stop (failure : Option Failure)

/-- Handles a key. -/
def press (logger : Logger) (editor : Editor) (key : Int) : Editor × Next :=
  let (changed, answer) := editor.handleKey key
  (writeLog logger changed, match answer with
    | .ok true => .goOn
    | .ok false => .stop none
    | .error failure => .stop (some failure))

/-- Handles an input.  A change of the size of the screen counts as a key. -/
def take (logger : Logger) (editor : Editor) : Input → Editor × Next
  | .interrupt => (editor, .stop none)
  | .nothing | .trouble => (editor, .goOn)
  | .wait milliseconds => ({ editor with clock := editor.clock + milliseconds }, .goOn)
  | .key code => press logger editor code
  | .resize height width => press logger (resizeScreen editor height width) Key.resize

/-- Draws the editor to the size of the screen. -/
def draw (editor : Editor) : Editor × Option Failure := (fit editor).refresh

/-- Draws and reads inputs until the end.  Where no input is left, the program
is interrupted. -/
def loop (logger : Logger) (read : Nat) : List Input → Editor → Editor × Nat × Option Failure
  | [], editor =>
    let (drawn, failed) := draw editor
    (drawn, read, failed)
  | input :: rest, editor =>
    match draw editor with
    | (drawn, some failure) => (drawn, read, some failure)
    | (drawn, none) =>
      match take logger drawn input with
      | (reached, .goOn) => loop logger (read + 1) rest reached
      | (reached, .stop failed) => (reached, read + 1, failed)

/-- What there is before the first frame: a run that is over already, or the editor. -/
inductive Opening where
  | over (report : Report)
  | ready (logger : Logger) (editor : Editor)

/-- The report of a run that has come to nothing yet. -/
def blank (screen : Screen) (disk : Disk) : Report :=
  ⟨.returned, "", "", disk, screen, none, 0⟩

/-- The report of a run that a failure has ended. -/
def fail (logger : Logger) (clock : Instant) (failure : Failure) (report : Report) : Report :=
  if failure.isReported then
    { report with
      ending := .exited 1
      errors := report.errors ++ "Error: " ++ failure.message ++ "\n"
      disk := logger.write clock report.disk [⟨Level.error, logSource, "Editor terminated"⟩] }
  else { report with ending := .escaped failure }

/-- The report of a run of the editor. -/
def close (logger : Logger) (editor : Editor) (read : Nat) (failed : Option Failure) : Report :=
  let report := { blank editor.screen editor.disk with editor := some editor, inputsRead := read }
  match failed with
  | none => report
  | some failure => fail logger editor.clock failure report

/-- Opens the editor with its file, given the buffer that the options ask for. -/
def openEditor (logger : Logger) (buffer : Buffer) (file : Option String) (screen : Screen)
    (disk : Disk) (clock : Instant) : Opening :=
  let ready := screen.request [.useDefaultColors, .showCursor 0, .waitAtMost 100]
  match Editor.start (.new buffer) file ready disk clock with
  | .error failure => .over (fail logger clock failure (blank ready disk))
  | .ok editor =>
    match openFile editor file with
    | (opened, none) => .ready logger (writeLog logger opened)
    | (opened, some failure) => .over (close logger (writeLog logger opened) 0 (some failure))

/-- Opens the editor with the options read.  The log comes before everything else. -/
def openOptions (options : CommandLine.Options) (setting : Option String) (screen : Screen)
    (disk : Disk) (clock : Instant) : Opening :=
  match Logger.setUp disk (some loggerName) setting options.logFile.value? false with
  | .error failure => .over { blank screen disk with ending := .escaped failure }
  | .ok (logger, disk) =>
    match options.buffer with
    | .error failure =>
      .over { blank screen disk with
        ending := .exited 2, errors := "Error: " ++ failure.message ++ "\n" }
    | .ok buffer => openEditor logger buffer options.file screen disk clock

/-- Begins a run with the arguments of the command line and the setting of the
log level. -/
def start (arguments : List String) (setting : Option String) (screen : Screen) (disk : Disk)
    (clock : Instant) : Opening :=
  match CommandLine.read arguments with
  | .help => .over { blank screen disk with ending := .exited 0, output := CommandLine.help }
  | .complaint complaint =>
    .over { blank screen disk with
      ending := .exited 2, errors := CommandLine.complain complaint }
  | .options options => openOptions options setting screen disk clock

/-- A whole run of the program. -/
def run (arguments : List String) (setting : Option String) (inputs : List Input)
    (screen : Screen) (disk : Disk) (clock : Instant) : Report :=
  match start arguments setting screen disk clock with
  | .over report => report
  | .ready logger editor =>
    let (left, read, failed) := loop logger 0 inputs editor
    close logger left read failed

end Program

end MarkupEditor
