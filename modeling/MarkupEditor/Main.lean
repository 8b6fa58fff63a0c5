import MarkupEditor.Program
import MarkupEditor.Terminal.Frame
import MarkupEditor.Terminal.Keyboard

/-!
# The command

Runs the editor on the terminal it is started from.  Keys are read from the
standard input byte by byte, which a terminal has to be set to; frames go to the
standard output.  The files that the run can touch are read before it, and
written back whenever they have changed.
-/

namespace MarkupEditor.Main

/-- The location that a name leads to from another one. -/
def follow (location : Location) (name : String) : Location :=
  if name = "." then location
  else if name = ".." then Disk.enclosing location
  else location ++ [name]

/-- The locations on the way to a file, the file itself last. -/
def locationsTo (path : String) : List Location :=
  let names := Path.names path
  (List.range names.length).map fun size => (names.take (size + 1)).foldl follow (Disk.origin path)

/-- The path of a location. -/
def pathOf : Location → String
  | "/" :: rest => "/" ++ "/".intercalate rest
  | location => "/".intercalate location

/-- Takes over what there is at a location: what cannot be read because it is of
another type is a directory. -/
def lookAt (disk : Disk) (location : Location) : IO Disk := do
  try
    let bytes ← IO.FS.readBinFile (pathOf location)
    pure { disk with files := Disk.store location bytes disk.files }
  catch error =>
    match error with
    | .inappropriateType .. => pure { disk with directories := location :: disk.directories }
    | _ => pure disk

/-- Everything on the way to some files. -/
def readDisk (paths : List String) : IO Disk :=
  (paths.flatMap locationsTo).foldlM lookAt .empty

/-- Writes the files that have changed. -/
def writeDisk (before after : Disk) : IO Unit :=
  after.files.forM fun (location, bytes) =>
    match before.files.lookup location with
    | some known =>
      if known.data = bytes.data then pure () else IO.FS.writeBinFile (pathOf location) bytes
    | none => IO.FS.writeBinFile (pathOf location) bytes

/-- The files that a command line names. -/
def namedFiles (arguments : List String) : List String :=
  match CommandLine.read arguments with
  | .options options =>
    options.file.toList ++ (options.logFile.value?.map Path.tidy).toList
  | _ => []

/-- The size of the screen, which the environment tells. -/
def readScreen : IO Screen := do
  let size (name : String) (usual : Int) : IO Int := do
    pure (((← IO.getEnv name).bind String.toInt?).getD usual)
  pure ⟨← size "LINES" 24, ← size "COLUMNS" 80, 256, 256, .console, []⟩

/-- The time, on a clock whose beginning does not matter. -/
def readClock : IO Instant := do pure (Int.ofNat (← IO.monoMsNow))

/-- Shows frames and handles keys until the run is over. -/
partial def interact (logger : Logger) (editor : Editor) (read : Nat) (waiting : List Nat)
    (input output : IO.FS.Stream) : IO Report := do
  match Program.draw editor with
  | (drawn, some failure) => pure (Program.close logger drawn read (some failure))
  | (drawn, none) =>
    output.putStr (Frame.ofEditor drawn)
    output.flush
    let bytes ← input.read 1
    let now : Editor := { drawn with clock := ← readClock }
    match bytes.toList with
    | [] => pure (Program.close logger now read none)
    | byte :: _ =>
      let (left, key) := Keyboard.read waiting byte.toNat
      match key with
      | none => interact logger now read left input output
      | some code =>
        let (reached, next) := Program.take logger now (.key code)
        writeDisk now.disk reached.disk
        match next with
        | .goOn => interact logger reached (read + 1) left input output
        | .stop failed => pure (Program.close logger reached (read + 1) failed)

def run (arguments : List String) : IO Report := do
  let disk ← readDisk (namedFiles arguments)
  let opening := Program.start arguments (← IO.getEnv "LOG_LEVEL") (← readScreen) disk (← readClock)
  match opening with
  | .over report =>
    writeDisk disk report.disk
    pure report
  | .ready logger editor =>
    writeDisk disk editor.disk
    let report ← interact logger editor 0 [] (← IO.getStdin) (← IO.getStdout)
    writeDisk editor.disk report.disk
    pure report

end MarkupEditor.Main

def main (arguments : List String) : IO UInt32 := do
  let report ← MarkupEditor.Main.run arguments
  (← IO.getStdout).putStr report.output
  (← IO.getStderr).putStr report.errors
  match report.ending with
  | .returned => pure 0
  | .exited code => pure (UInt32.ofNat code)
  | .escaped failure =>
    (← IO.getStderr).putStrLn failure.message
    pure 1
