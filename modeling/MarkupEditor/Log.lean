import MarkupEditor.Session.Run
import MarkupEditor.Storage.Disk
import MarkupEditor.Storage.TextFile

/-!
# Logs

A logger keeps the records whose level reaches its own.  Its level comes from a
setting that names one; records go to the end of a file, to the console, or
nowhere.  A line of a log begins with the time of the record.
-/

namespace MarkupEditor

/-- One message for the log. -/
structure Record where
  level : Int
  source : String
  message : String
deriving DecidableEq

namespace Level

def debug : Int := 10

def info : Int := 20

def warning : Int := 30

def error : Int := 40

def critical : Int := 50

/-- The levels that a setting can name. -/
def named : List (String × Int) :=
  [("CRITICAL", critical), ("FATAL", critical), ("ERROR", error), ("WARNING", warning),
   ("WARN", warning), ("INFO", info), ("DEBUG", debug), ("NOTSET", 0)]

/-- The upper-case form of a character that has one among the basic letters. -/
def upperChar (c : Char) : Char :=
  if c = 'ı' then 'I' else if c = 'ſ' then 'S' else c.toUpper

/-- The level that a setting stands for; without a setting, or where it names no
level, the level of information. -/
def ofSetting : Option String → Int
  | none => info
  | some setting =>
    (named.lookup (String.ofList (setting.toList.map upperChar))).getD info

/-- How a line shows a level. -/
def label (level : Int) : String :=
  if level = debug then "DEBUG"
  else if level = info then "INFO"
  else if level = warning then "WARNING"
  else if level = error then "ERROR"
  else if level = critical then "CRITICAL"
  else if level = 0 then "NOTSET"
  else s!"Level {level}"

end Level

/-- Milliseconds since the beginning of 1970. -/
abbrev Instant := Int

namespace Instant

/-- The year, month and day that lie a number of days after the beginning of 1970. -/
def date (days : Int) : Int × Int × Int :=
  let fromMarch := days + 719468
  let era := fromMarch.fdiv 146097
  let dayOfEra := fromMarch - era * 146097
  let yearOfEra :=
    (dayOfEra - dayOfEra / 1460 + dayOfEra / 36524 - dayOfEra / 146096) / 365
  let dayOfYear := dayOfEra - (365 * yearOfEra + yearOfEra / 4 - yearOfEra / 100)
  let monthFromMarch := (5 * dayOfYear + 2) / 153
  let day := dayOfYear - (153 * monthFromMarch + 2) / 5 + 1
  let month := if monthFromMarch < 10 then monthFromMarch + 3 else monthFromMarch - 9
  (yearOfEra + era * 400 + (if month ≤ 2 then 1 else 0), month, day)

def padded (width : Nat) (n : Int) : String :=
  let digits := toString n
  String.ofList (List.replicate (width - digits.length) '0') ++ digits

/-- How a line shows an instant. -/
def stamp (instant : Instant) : String :=
  let days := instant.fdiv 86400000
  let rest := instant - days * 86400000
  let (year, month, day) := date days
  padded 4 year ++ "-" ++ padded 2 month ++ "-" ++ padded 2 day ++ " "
    ++ padded 2 (rest / 3600000) ++ ":" ++ padded 2 (rest / 60000 % 60) ++ ":"
    ++ padded 2 (rest / 1000 % 60) ++ "," ++ padded 3 (rest % 1000)

end Instant

namespace Record

/-- The line of a log that shows a record. -/
def line (record : Record) (instant : Instant) : String :=
  instant.stamp ++ " [" ++ Level.label record.level ++ "] " ++ record.source ++ ": "
    ++ record.message ++ "\n"

end Record

namespace Entry

/-- The record of a thing that has happened in a session; notifications leave none. -/
def record? : Entry → Option Record
  | .pass characters spans =>
    some ⟨Level.debug, "htmlstorage.core.syntax",
      s!"Colorized {characters} characters: {spans} spans"⟩
  | .processed event _ =>
    some ⟨Level.debug, "htmlstorage.core.buffer",
      s!"Edit processed: mask={event.mask} range={event.span.printed} delta={event.delta}"⟩
  | .notified _ _ => none
  | .refusedArchive size =>
    some ⟨Level.warning, "htmlstorage.core.buffer",
      s!"Refusing to restore TextBuffer from archive ({size} bytes)"⟩
  | .refusedPaste type =>
    some ⟨Level.warning, "htmlstorage.core.buffer",
      "Refusing to build TextBuffer from pasted item of type " ++ type⟩

end Entry

structure Logger where
  name : String
  level : Int
  /-- The file that records go to. -/
  file : Option String
  /-- Whether records go to the console. -/
  console : Bool

namespace Logger

/-- The name of the logger above all others. -/
def rootName : String := "root"

/-- The file that log records go to where nothing else is asked for. -/
def defaultFile : String := "htmlstorage.log"

/-- Sets a logger up.  Its file is opened at once, so that it exists from then on. -/
def setUp (disk : Disk) (name setting : Option String) (file : Option String) (console : Bool) :
    Except Failure (Logger × Disk) :=
  let named := match name with
    | some name => if name.isEmpty then rootName else name
    | none => rootName
  let level := Level.ofSetting setting
  match file with
  | some path =>
    if path.isEmpty then .ok (⟨named, level, none, console⟩, disk)
    else
      (disk.append (Path.tidy path) []).map fun opened =>
        (⟨named, level, some (Path.tidy path), console⟩, opened)
  | none => .ok (⟨named, level, none, console⟩, disk)

/-- The level a record has to reach.  A logger without a level takes over that
of the root, which is the level of warnings unless the logger is the root. -/
def threshold (logger : Logger) : Int :=
  if logger.level ≠ 0 then logger.level
  else if logger.name = rootName then 0
  else Level.warning

/-- Whether a logger keeps a record; levels below one are never kept. -/
def keeps (logger : Logger) (record : Record) : Bool :=
  0 < record.level && logger.threshold ≤ record.level

/-- Writes the records that a logger keeps to its file. -/
def write (logger : Logger) (instant : Instant) (disk : Disk) (records : List Record) : Disk :=
  match logger.file with
  | none => disk
  | some path =>
    let lines := ((records.filter logger.keeps).map (·.line instant)).flatMap String.toList
    match disk.append path (TextFile.write lines) with
    | .ok written => written
    | .error _ => disk

/-- The lines for the console. -/
def consoleLines (logger : Logger) (instant : Instant) (records : List Record) : List String :=
  if logger.console then (records.filter logger.keeps).map (·.line instant) else []

end Logger

end MarkupEditor
