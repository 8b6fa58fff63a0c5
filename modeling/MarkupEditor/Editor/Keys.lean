import MarkupEditor.Editor.Files

/-!
# Keys

Keys come as numbers: the code point of a character, or a number of their own.
What a key asks for is decided first, and done second.  A request to quit is
answered by a warning while there are unsaved changes; it counts only when it
comes twice in a row.
-/

namespace MarkupEditor

namespace Key

def down : Int := 258

def up : Int := 259

def left : Int := 260

def right : Int := 261

def home : Int := 262

def backspace : Int := 263

def deleteChar : Int := 330

def pageDown : Int := 338

def pageUp : Int := 339

def enter : Int := 343

def lineEnd : Int := 360

def resize : Int := 410

/-- Control and `W`. -/
def save : Int := 23

/-- Control and `X`. -/
def quit : Int := 24

end Key

inductive Action where
  | quit
  | save
  | insert (text : List Char)
  | delete
  | backspace
  | left
  | right
  | up
  | down
  | pageUp
  | pageDown
  | lineStart
  | lineEnd
deriving DecidableEq

namespace Action

/-- What the tab key inserts. -/
def tabText : List Char := "    ".toList

/-- The keys that stand for other actions than the insertion of a character. -/
def bindings : List (Int × Action) :=
  [(Key.quit, .quit), (Key.save, .save), (Key.left, .left), (Key.right, .right), (Key.up, .up),
   (Key.down, .down), (Key.home, .lineStart), (Key.lineEnd, .lineEnd), (Key.pageUp, .pageUp),
   (Key.pageDown, .pageDown), (Key.deleteChar, .delete), (Key.backspace, .backspace),
   (127, .backspace), (8, .backspace), (Key.enter, .insert ['\n']), (10, .insert ['\n']),
   (9, .insert tabText)]

/-- What a key asks for, if anything. -/
def ofKey? (key : Int) : Option Action :=
  if 32 ≤ key ∧ key ≤ 126 then some (.insert [Char.ofNat key.toNat]) else bindings.lookup key

end Action

namespace Editor

/-- The warning before unsaved changes are lost. -/
def unsavedWarning : String :=
  "Buffer has unsaved changes. Press Ctrl+W to save or Ctrl+X again to discard changes."

/-- Inserts text at the cursor and moves the cursor behind it. -/
def insertText (editor : Editor) (text : List Char) : Editor × Option Failure :=
  match editor.perform (.replace [editor.cursor, 0] (.plain text)) with
  | (changed, some failure) => (changed, some failure)
  | (changed, none) => ({ changed with cursor := changed.cursor + text.length }, none)

/-- Deletes the character behind the cursor. -/
def deleteChar (editor : Editor) : Editor × Option Failure :=
  if editor.cursor < editor.text.length then
    editor.perform (.replace [editor.cursor, 1] (.plain []))
  else (editor, none)

/-- Deletes the character before the cursor. -/
def backspace (editor : Editor) : Editor × Option Failure :=
  if editor.cursor = 0 then (editor, none)
  else
    let moved := { editor with cursor := editor.cursor - 1 }
    moved.perform (.replace [moved.cursor, 1] (.plain []))

def moveTo (editor : Editor) (cursor : Int) : Editor := { editor with cursor := cursor }

/-- Moves the cursor up or down, staying in its column where the line has it. -/
def moveLines (editor : Editor) (count : Int) : Editor :=
  let position := Text.positionOf editor.text editor.cursor
  editor.moveTo (Text.offsetOf editor.text (max 0 (position.line + count)) position.column)

/-- Moves the cursor to a column of its line. -/
def moveToColumn (editor : Editor) (column : Int) : Editor :=
  let position := Text.positionOf editor.text editor.cursor
  editor.moveTo (Text.offsetOf editor.text position.line column)

/-- Does what a key asked for, other than to quit. -/
def act (editor : Editor) : Action → Editor × Option Failure
  | .quit => (editor, none)
  | .save =>
    match editor.save none with
    | (tried, .ok _) => (tried, none)
    | (tried, .error failure) => (tried, some failure)
  | .insert text => editor.insertText text
  | .delete => editor.deleteChar
  | .backspace => editor.backspace
  | .left => (editor.moveTo (max 0 (editor.cursor - 1)), none)
  | .right => (editor.moveTo (min editor.text.length (editor.cursor + 1)), none)
  | .up => (editor.moveLines (-1), none)
  | .down => (editor.moveLines 1, none)
  | .pageUp => (editor.moveLines (-editor.visibleLines), none)
  | .pageDown => (editor.moveLines editor.visibleLines, none)
  | .lineStart => (editor.moveToColumn 0, none)
  | .lineEnd => (editor.moveToColumn editor.text.length, none)

/-- Answers a request to quit: whether to go on. -/
def askToQuit (editor : Editor) : Editor × Bool :=
  if editor.modified && !editor.quitRequested then
    (setStatus { editor with quitRequested := true } unsavedWarning, true)
  else (editor, false)

/-- Handles a key and says whether to go on. -/
def handleKey (editor : Editor) (key : Int) : Editor × Except Failure Bool :=
  match Action.ofKey? key with
  | some .quit =>
    let (asked, goesOn) := editor.askToQuit
    (asked, .ok goesOn)
  | some action =>
    match act { editor with quitRequested := false } action with
    | (changed, none) => (changed, .ok true)
    | (changed, some failure) => (changed, .error failure)
  | none => ({ editor with quitRequested := false }, .ok true)

/-- Handles keys one after another; the first one that fails ends the row. -/
def handleKeys : List Int → Editor → Editor × Except Failure (List Bool)
  | [], editor => (editor, .ok [])
  | key :: rest, editor =>
    match editor.handleKey key with
    | (changed, .error failure) => (changed, .error failure)
    | (changed, .ok goesOn) =>
      let (reached, answers) := handleKeys rest changed
      (reached, answers.map (goesOn :: ·))

end Editor

end MarkupEditor
