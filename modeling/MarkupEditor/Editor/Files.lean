import MarkupEditor.Editor.State

/-!
# Files of the editor

Loading puts the text of a file into the buffer, saving puts the text of the
buffer into a file.  After either of them the text counts as unmodified.
-/

namespace MarkupEditor.Editor

/-- The part of the program that log records of the editor name. -/
def logSource : String := "htmlstorage.ui.window"

def load (editor : Editor) (filename : String) : Editor × Option Failure :=
  match editor.disk.read filename with
  | .error failure => (editor, some failure)
  | .ok bytes =>
    let content := TextFile.read bytes
    match editor.perform (.setText (.plain content)) with
    | (changed, some failure) => (changed, some failure)
    | (changed, none) =>
      let loaded : Editor :=
        { changed with
          filename := some filename, cursor := 0, topLine := 0, modified := false }
      (loaded.tell ⟨Level.info, logSource, s!"Loaded {filename} ({content.length} characters)"⟩,
        none)

/-- A file name that names something. -/
def named? : Option String → Option String
  | some name => if name.isEmpty then none else some name
  | none => none

/-- Saves to a file, by default to the one last loaded or saved, and says
whether that worked.  Where the disk has refused it, the status tells why; a
name that is none changes nothing. -/
def save (editor : Editor) (filename : Option String) : Editor × Except Failure Bool :=
  match named? filename <|> named? editor.filename with
  | none =>
    (editor.setStatus "No file name. Start the editor with a file path to save.", .ok false)
  | some name =>
    match editor.disk.write name (TextFile.write editor.text) with
    | .error failure =>
      if failure.isOfDisk then
        let told := editor.tell
          ⟨Level.error, logSource, s!"Failed to save {name}: " ++ failure.message⟩
        (told.setStatus ("Failed to save file: " ++ failure.message), .ok false)
      else (editor, .error failure)
    | .ok disk =>
      let saved : Editor :=
        { editor with disk := disk, filename := some name, modified := false }
      let shown := saved.setStatus s!"Saved {name}"
      (shown.tell ⟨Level.info, logSource,
        s!"Saved {name} ({editor.text.length} characters)"⟩, .ok true)

end MarkupEditor.Editor
