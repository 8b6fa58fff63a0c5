import MarkupEditor.Buffer.Edit
import MarkupEditor.Export.Form

/-!
# Commands

Everything that can be asked of a buffer, as data: so that a block of commands
can run inside of one transaction, and an observer can hold commands that it
reacts with.
-/

namespace MarkupEditor

inductive Command where
  /-- Replaces the characters of the span with the given coordinates. -/
  | replace (coordinates : List Int) (fragment : Fragment)
  | setAttributes (coordinates : List Int) (attributes : AttributeSet)
  | delete (coordinates : List Int)
  | insert (offset : Int) (fragment : Fragment)
  | append (fragment : Fragment)
  /-- Replaces the whole text. -/
  | setText (fragment : Fragment)
  | addAttribute (name : String) (value : Value) (coordinates : List Int)
  | removeAttribute (name : String) (coordinates : List Int)
  | assignAttribute (name : String) (values : List (Option Value))
  | attributesAt (offset : Int)
  | length
  | beginEditing
  | endEditing
  | recordEdit (mask : Nat) (coordinates : List Int) (delta : Int)
  /-- Runs a pass and asks for nothing. -/
  | process
  /-- Runs a pass and asks how many spans it colored. -/
  | colorize
  | recolorize
  | setColor (layer : Layer) (value : Value)
  | palette
  | setFont (font : Value)
  /-- Tries to restore a buffer from an archive of some size. -/
  | restore (size : Nat)
  /-- Tries to build a buffer from a pasted item of some type. -/
  | paste (type : String)
  | exportAs (form : Form)
  /-- Runs commands inside of one transaction; the first refused one ends the block. -/
  | editing (body : List Command)
  /-- Registers an observer by name.  A new one reacts to its first `times`
  notifications by running commands. -/
  | observe (name : String) (reaction : List Command) (times : Nat)
  | unobserve (name : String)
deriving Inhabited

/-- What a command answers. -/
inductive Reply where
  | done
  | count (count : Nat)
  | styling (attributes : AttributeSet) (span : Span)
  | color (color : Color)
  | palette (palette : Palette)
  | value (value : Value)
  | rendering (rendering : Rendering)
  /-- A block has run to its end. -/
  | block

mutual

/-- The command that the same text gives when it is read another time. -/
def Command.reread (turn : Nat) : Command → Command
  | .replace coordinates fragment => .replace coordinates (fragment.reread turn)
  | .setAttributes coordinates attributes => .setAttributes coordinates (attributes.reread turn)
  | .insert offset fragment => .insert offset (fragment.reread turn)
  | .append fragment => .append (fragment.reread turn)
  | .setText fragment => .setText (fragment.reread turn)
  | .addAttribute name value coordinates => .addAttribute name (value.reread turn) coordinates
  | .assignAttribute name values =>
    .assignAttribute name (values.map fun value => value.map (Value.reread turn))
  | .setColor layer value => .setColor layer (value.reread turn)
  | .setFont font => .setFont (font.reread turn)
  | .editing body => .editing (rereadCommands turn body)
  | .observe name reaction times => .observe name (rereadCommands turn reaction) times
  | command => command

def rereadCommands (turn : Nat) : List Command → List Command
  | [] => []
  | command :: rest => command.reread turn :: rereadCommands turn rest

end

mutual

/-- How many reactions a command can prepare: every registration counts its
notifications, and with each of them what the reaction prepares in turn. -/
def Command.reactions : Command → Nat
  | .editing body => commandReactions body
  | .observe _ reaction times => times * (1 + commandReactions reaction)
  | _ => 0

def commandReactions : List Command → Nat
  | [] => 0
  | command :: rest => command.reactions + commandReactions rest

end

end MarkupEditor
