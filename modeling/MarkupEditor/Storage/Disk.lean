import MarkupEditor.Storage.Path

/-!
# Disks

A disk holds directories and files.  An entry is known by the names on the way
to it; a path is followed from name to name, and every name but the last has to
lead to a directory.
-/

namespace MarkupEditor

/-- The names on the way to an entry; that of an absolute path begins with `/`. -/
abbrev Location := List String

structure Disk where
  directories : List Location
  files : List (Location × ByteArray)

/-- What a path asks for. -/
inductive Target where
  /-- A directory that was found on the way. -/
  | directory
  /-- The entry of a name in a directory; `slash` tells whether a slash is behind the name. -/
  | entry (directory : Location) (name : String) (slash : Bool)
deriving DecidableEq

namespace Disk

def empty : Disk := ⟨[], []⟩

/-- Whether there is a directory at a location.  The directory that paths start
from and those around it are always there. -/
def hasDirectory (disk : Disk) (location : Location) : Bool :=
  location.all (· = "..") || location = ["/"] || disk.directories.contains location

/-- The location of the directory around a directory. -/
def enclosing (location : Location) : Location :=
  match location.getLast? with
  | none => [".."]
  | some name =>
    if name = ".." then location ++ [".."]
    else if location = ["/"] then location
    else location.dropLast

/-- Follows a name of a path from one directory to another. -/
def enter (disk : Disk) (path : String) (location : Location) (name : String) :
    Except Failure Location :=
  if name = "." then .ok location
  else if name = ".." then .ok (enclosing location)
  else if Path.maxNameSize < Path.size name then .error (.nameTooLong path)
  else if disk.hasDirectory (location ++ [name]) then .ok (location ++ [name])
  else if (disk.files.lookup (location ++ [name])).isSome then .error (.notDirectory path)
  else .error (.missingFile path)

/-- The location that a path starts from. -/
def origin (path : String) : Location := if Path.isAbsolute path then ["/"] else []

/-- Follows a path up to its last name. -/
def target (disk : Disk) (path : String) : Except Failure Target := do
  Path.check path
  let names := Path.names path
  let reached ← names.dropLast.foldlM (disk.enter path) (origin path)
  pure <| match names.getLast? with
    | none => .directory
    | some name =>
      if name = "." ∨ name = ".." then .directory
      else .entry reached name (Path.endsInSlash path)

/-- The bytes of a file.  Behind a slash there is no file. -/
def read (disk : Disk) (path : String) : Except Failure (List UInt8) := do
  match ← disk.target path with
  | .directory => .error (.isDirectory path)
  | .entry directory name slash =>
    if Path.maxNameSize < Path.size name then .error (.nameTooLong path)
    else if disk.hasDirectory (directory ++ [name]) then .error (.isDirectory path)
    else
      match disk.files.lookup (directory ++ [name]) with
      | some bytes => if slash then .error (.notDirectory path) else .ok bytes.data.toList
      | none => .error (.missingFile path)

/-- Whether a path leads to anything. -/
def exists? (disk : Disk) (path : String) : Bool :=
  match disk.read path with
  | .ok _ | .error (.isDirectory _) => true
  | .error _ => false

/-- The bytes of a file; no bytes where there is none. -/
def bytesAt (disk : Disk) (location : Location) : ByteArray :=
  (disk.files.lookup location).getD .empty

def store (location : Location) (bytes : ByteArray) :
    List (Location × ByteArray) → List (Location × ByteArray)
  | [] => [(location, bytes)]
  | file :: rest =>
    if file.1 = location then (location, bytes) :: rest else file :: store location bytes rest

/-- Changes the bytes of a file, which is created if there is none.  A name with
a slash behind it is refused before anything is looked for. -/
def update (disk : Disk) (path : String) (change : ByteArray → ByteArray) :
    Except Failure Disk := do
  match ← disk.target path with
  | .directory | .entry _ _ true => .error (.isDirectory path)
  | .entry directory name false =>
    let location := directory ++ [name]
    if Path.maxNameSize < Path.size name then .error (.nameTooLong path)
    else if disk.hasDirectory location then .error (.isDirectory path)
    else .ok { disk with files := store location (change (disk.bytesAt location)) disk.files }

/-- Writes a file anew. -/
def write (disk : Disk) (path : String) (bytes : List UInt8) : Except Failure Disk :=
  disk.update path fun _ => ⟨bytes.toArray⟩

/-- Writes at the end of a file. -/
def append (disk : Disk) (path : String) (bytes : List UInt8) : Except Failure Disk :=
  disk.update path fun present => present ++ ⟨bytes.toArray⟩

end Disk

end MarkupEditor
