import MarkupEditor.Text.DecimalDigit
import MarkupEditor.Text.Quoted

/-!
# Words of a command line

A word is an option, an argument, or something that looks like an option and is
none.  The first `--` separates options from arguments: all words behind it are
arguments.  Long options can be shortened as long as they stay unique.
-/

namespace MarkupEditor.CommandLine

/-- An option that takes a value. -/
inductive ValueOption where
  | tagColor
  | quotedColor
  | commentColor
  | logFile
deriving DecidableEq

namespace ValueOption

def name : ValueOption → String
  | .tagColor => "--tag-color"
  | .quotedColor => "--quoted-color"
  | .commentColor => "--comment-color"
  | .logFile => "--log-file"

end ValueOption

inductive Switch where
  | help
  | value (option : ValueOption)
deriving DecidableEq

namespace Switch

/-- The spellings of all options, in the order in which they are listed. -/
def spellings : List (String × Switch) :=
  [("-h", .help), ("--help", .help), ("--tag-color", .value .tagColor),
   ("--quoted-color", .value .quotedColor), ("--comment-color", .value .commentColor),
   ("--log-file", .value .logFile)]

end Switch

inductive Word where
  | argument (text : String)
  | separator
  /-- An option, perhaps with a value in the same word; `short` tells the one
  option of one letter. -/
  | option (switch : Switch) (short : Bool) (attached : Option String)
  | unknown (text : String)
deriving DecidableEq

namespace Word

/-- A word cut at its first equals sign. -/
def cutAtEquals (text : List Char) : List Char × Option String :=
  let head := text.takeWhile (· != '=')
  match text.drop head.length with
  | _ :: rest => (head, some (String.ofList rest))
  | [] => (head, none)

/-- Whether a word is a minus sign and a number, with or without a decimal point. -/
def looksNegative : List Char → Bool
  | '-' :: rest =>
    let number := if rest.getLast? = some '\n' then rest.dropLast else rest
    let fraction := number.dropWhile isDecimalDigit
    match fraction with
    | [] => !number.isEmpty
    | '.' :: digits => !digits.isEmpty && digits.all isDecimalDigit
    | _ => false
  | _ => false

/-- The options that a word can be short for, with the value it brings along. -/
def candidates (text : List Char) : List (String × Switch × Bool × Option String) :=
  match text with
  | '-' :: '-' :: _ =>
    let (head, attached) := cutAtEquals text
    (Switch.spellings.filter fun known => head.isPrefixOf known.1.toList).map
      fun (spelling, switch) => (spelling, switch, false, attached)
  | '-' :: 'h' :: rest => [("-h", .help, true, some (String.ofList rest))]
  | _ => []

/-- What a word that begins with a dash is, if it is no option in full. -/
def ofCandidates (text : String) :
    List (String × Switch × Bool × Option String) → Except String Word
  | [] =>
    if looksNegative text.toList || text.toList.contains ' ' then .ok (.argument text)
    else .ok (.unknown text)
  | [(_, switch, short, attached)] => .ok (.option switch short attached)
  | several =>
    .error ("ambiguous option: " ++ text ++ " could match "
      ++ ", ".intercalate (several.map fun candidate => candidate.1))

/-- What a word is; a word that can be short for several options is refused. -/
def classify (text : String) : Except String Word :=
  match text.toList with
  | '-' :: rest =>
    match Switch.spellings.lookup text with
    | some switch => .ok (.option switch (text = "-h") none)
    | none =>
      if rest.isEmpty then .ok (.argument text)
      else
        let (head, attached) := cutAtEquals text.toList
        match attached, Switch.spellings.lookup (String.ofList head) with
        | some value, some switch => .ok (.option switch (head = ['-', 'h']) (some value))
        | _, _ => ofCandidates text (candidates text.toList)
  | _ => .ok (.argument text)

/-- The words of a command line. -/
def classifyAll : List String → Except String (List Word)
  | [] => .ok []
  | text :: rest =>
    if text = "--" then .ok (.separator :: rest.map .argument)
    else do
      let word ← classify text
      let words ← classifyAll rest
      pure (word :: words)

end Word

end MarkupEditor.CommandLine
