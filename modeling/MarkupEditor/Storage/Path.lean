import MarkupEditor.Failure
import MarkupEditor.Storage.Utf8

/-!
# Paths

A path is a row of names with slashes between them.  The name `.` stays where it
is and `..` leads back to the directory around; every other name leads to an
entry.  A path that begins with a slash starts at the top of all directories.
-/

namespace MarkupEditor.Path

/-- The names of a path.  Slashes next to each other have no name between them. -/
def names (path : String) : List String :=
  (path.splitOn "/").filter (· ≠ "")

def isAbsolute (path : String) : Bool := path.startsWith "/"

/-- Whether a slash ends the path, which then asks for a directory. -/
def endsInSlash (path : String) : Bool := path.endsWith "/"

/-- The number of bytes that a name or a path takes up. -/
def size (text : String) : Nat := (Utf8.encode text.toList).length

/-- The greatest size of a name. -/
def maxNameSize : Nat := 255

/-- The greatest size of a path. -/
def maxSize : Nat := 4095

/-- Refuses a path that can be followed on no disk. -/
def check (path : String) : Except Failure Unit :=
  if path.toList.contains '\x00' then .error .nulInPath
  else if path.isEmpty then .error (.missingFile path)
  else if maxSize < size path then .error (.nameTooLong path)
  else .ok ()

/-- Takes one more name into a row of names, in which `..` takes back the name
before it.  At the top of all directories it leads nowhere. -/
def pushName (absolute : Bool) (reached : List String) (name : String) : List String :=
  if name = "." then reached
  else if name ≠ ".." then reached ++ [name]
  else
    match reached.getLast? with
    | none => if absolute then [] else [".."]
    | some last => if last = ".." then reached ++ [".."] else reached.dropLast

/-- The names of a path after every `..` that follows a name is taken back
together with it, whatever that name leads to. -/
def tidyNames (path : String) : List String :=
  (names path).foldl (pushName (isAbsolute path)) []

/-- The slashes that begin a tidy path: two stay two, and any other number is one. -/
def leadingSlashes (path : String) : String :=
  if !isAbsolute path then ""
  else if path.startsWith "//" && !path.startsWith "///" then "//"
  else "/"

/-- The shortest path that leads to the same place where all names on the way
are those of directories. -/
def tidy (path : String) : String :=
  let short := leadingSlashes path ++ "/".intercalate (tidyNames path)
  if short.isEmpty then "." else short

end MarkupEditor.Path
