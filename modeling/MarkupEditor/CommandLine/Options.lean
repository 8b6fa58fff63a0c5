import MarkupEditor.Buffer.Basic
import MarkupEditor.CommandLine.Word
import MarkupEditor.Log

/-!
# Command line options

A command line names at most one file and sets the colors and the log file.  It
is read from left to right: a request for help ends the reading, and what could
not be used is complained about at the end.
-/

namespace MarkupEditor.CommandLine

/-- The setting of an option. -/
inductive Setting where
  | unset
  /-- Set by nothing but a separator, which gives it no value. -/
  | unfilled
  | given (text : String)
deriving DecidableEq

namespace Setting

/-- The setting that a value makes. -/
def ofValue (value : String) : Setting := if value = "--" then .unfilled else .given value

/-- A value that says something. -/
def value? : Setting → Option String
  | .given text => if text.isEmpty then none else some text
  | _ => none

end Setting

structure Options where
  file : Option String
  tagColor : Setting
  quotedColor : Setting
  commentColor : Setting
  logFile : Setting
deriving DecidableEq

namespace Options

def default : Options := ⟨none, .unset, .unset, .unset, .given Logger.defaultFile⟩

def set (options : Options) (option : ValueOption) (setting : Setting) : Options :=
  match option with
  | .tagColor => { options with tagColor := setting }
  | .quotedColor => { options with quotedColor := setting }
  | .commentColor => { options with commentColor := setting }
  | .logFile => { options with logFile := setting }

/-- Sets a color of a buffer where the command line does. -/
def color (layer : Layer) (setting : Setting) (buffer : Buffer) : Attempt Buffer Buffer :=
  match setting.value? with
  | some text => buffer.setColor layer (.text text)
  | none => .ok buffer

/-- The empty buffer that a command line asks for; there is none if a color is refused. -/
def buffer (options : Options) : Except Failure Buffer :=
  Except.mapError Stopped.failure do
    let tags ← color .tag options.tagColor (.new readingFont .standard)
    let quotes ← color .quoted options.quotedColor tags
    color .comment options.commentColor quotes

end Options

/-- What reading a command line comes to. -/
inductive Reading where
  | options (options : Options)
  | help
  | complaint (text : String)
deriving DecidableEq

/-- What has been read so far. -/
structure Reader where
  options : Options
  /-- Whether the place of the file has been filled. -/
  filled : Bool
  /-- The words that could not be used. -/
  unused : List String

namespace Reader

def leave (reader : Reader) (text : String) : Reader :=
  { reader with unused := reader.unused ++ [text] }

def takeFile (reader : Reader) (file : Option String) : Reader :=
  { reader with options := { reader.options with file := file }, filled := true }

def set (reader : Reader) (option : ValueOption) (value : String) : Reader :=
  { reader with options := reader.options.set option (.ofValue value) }

/-- The reading at the end of a command line. -/
def finish (reader : Reader) : Reading :=
  if reader.unused.isEmpty then .options reader.options
  else .complaint ("unrecognized arguments: " ++ " ".intercalate reader.unused)

end Reader

/-- What is left of the letters attached to the short help option once the same
option has been taken from them again and again; nothing, if that uses them up. -/
def leftOfHelp? : List Char → Option (List Char)
  | [] => some []
  | ['h'] => none
  | 'h' :: rest => leftOfHelp? rest
  | letters => some letters

/-- A request for help, which takes no value. -/
def readHelp (short : Bool) (attached : Option String) : Reading :=
  let ignored (text : String) : Reading :=
    .complaint ("argument -h/--help: ignored explicit argument " ++ quoted text)
  match attached with
  | none => .help
  | some text =>
    if short then
      match leftOfHelp? text.toList with
      | none => .help
      | some letters => ignored (String.ofList letters)
    else ignored text

/-- Reads words.  The file takes a separator beside it along. -/
def readWords : List Word → Reader → Reading
  | [], reader => reader.finish
  | .unknown text :: rest, reader => readWords rest (reader.leave text)
  | .option .help short attached :: _, _ => readHelp short attached
  | .option (.value option) _ (some value) :: rest, reader =>
    readWords rest (reader.set option value)
  | .option (.value option) _ none :: .argument value :: rest, reader =>
    readWords rest (reader.set option value)
  | .option (.value option) _ none :: _, _ =>
    .complaint ("argument " ++ option.name ++ ": expected one argument")
  | .argument text :: .separator :: rest, reader =>
    if reader.filled then readWords rest ((reader.leave text).leave "--")
    else readWords rest (reader.takeFile (some text))
  | .argument text :: rest, reader =>
    if reader.filled then readWords rest (reader.leave text)
    else readWords rest (reader.takeFile (some text))
  | .separator :: .argument text :: rest, reader =>
    if reader.filled then readWords rest ((reader.leave "--").leave text)
    else readWords rest (reader.takeFile (some text))
  | .separator :: rest, reader =>
    readWords rest (if reader.filled then reader.leave "--" else reader.takeFile none)

/-- Reads a command line. -/
def read (arguments : List String) : Reading :=
  match Word.classifyAll arguments with
  | .ok words => readWords words ⟨.default, false, []⟩
  | .error complaint => .complaint complaint

end MarkupEditor.CommandLine
