import MarkupEditor.Buffer.Pending
import MarkupEditor.Color.Palette
import MarkupEditor.Runs.Basic
import MarkupEditor.Text.Lines

/-!
# Buffers

A buffer is a text with its styling, the settings that color it, and the state
of its edit transactions.  Transactions nest; only the end of the outermost one
has consequences.
-/

namespace MarkupEditor

/-- Someone to be told about edits: the view that shows the buffer, or a named
observer. -/
inductive Observer where
  | view
  | named (name : String)
deriving DecidableEq

structure Buffer where
  text : List Char
  runs : RunList
  /-- The font that coloring gives to every character. -/
  font : Value
  palette : Palette
  roles : Roles
  /-- The number of transactions open. -/
  depth : Nat
  pending : Pending
  observers : List Observer

/-- Text on its way into a buffer: plain text takes over the attributes it finds
there, styled text brings its own. -/
inductive Fragment where
  | plain (text : List Char)
  | styled (text : List Char) (attributes : AttributeSet)

namespace Fragment

def text : Fragment → List Char
  | .plain text => text
  | .styled text _ => text

def length (fragment : Fragment) : Nat := fragment.text.length

/-- The fragment that the same text gives when it is read another time. -/
def reread (turn : Nat) : Fragment → Fragment
  | .plain text => .plain text
  | .styled text attributes => .styled text (attributes.reread turn)

end Fragment

/-- The name of the attribute that holds the font. -/
def fontName : String := "font"

/-- The name of the attribute that holds the color. -/
def colorName : String := "color"

/-- The font of text that is read by people. -/
def readingFont : Value := .font (.text "monospace") (.real (.finite 14))

/-- The font of a buffer that was given none: too small to be seen. -/
def hiddenFont : Value := .font (.text "system") (.real (.finite 4))

namespace Buffer

/-- An empty buffer. -/
def new (font : Value) (roles : Roles) : Buffer where
  text := []
  runs := ∅
  font := font
  palette := .standard
  roles := roles
  depth := 0
  pending := .none
  observers := []

def length (buffer : Buffer) : Nat := buffer.text.length

/-- All characters of the buffer. -/
def whole (buffer : Buffer) : Span := .whole buffer.length

/-- The attribute set of a character and the span that shares it.  An empty
buffer answers every offset alike. -/
def attributesAt (buffer : Buffer) (offset : Int) : Except Failure (AttributeSet × Span) :=
  if buffer.text.isEmpty then .ok (∅, ⟨0, 0⟩) else buffer.runs.attributesAt offset

/-- Colors are given as attribute values; a value that is no color changes
nothing.  New colors show from the next pass on. -/
def setColor (buffer : Buffer) (layer : Layer) (value : Value) : Attempt Buffer Buffer := do
  let color ← leaving buffer (Color.ofValue value)
  pure { buffer with palette := buffer.palette.setColor layer color }

theorem state_setColor (buffer : Buffer) (layer : Layer) (value : Value) :
    (buffer.setColor layer value).state =
      { buffer with palette := (buffer.setColor layer value).state.palette } := by
  rw [setColor]
  cases Color.ofValue value <;> rfl

def addObserver (buffer : Buffer) (observer : Observer) : Buffer :=
  { buffer with observers := buffer.observers ++ [observer] }

/-- Takes one registration of an observer away, if there is one. -/
def removeObserver (buffer : Buffer) (observer : Observer) : Buffer :=
  { buffer with observers := buffer.observers.erase observer }

/-! ### Single attributes

These change the styling outside of any transaction. -/

/-- Takes over a change of the runs. -/
def restyle (buffer : Buffer) (change : Attempt RunList RunList) : Attempt Buffer Buffer := do
  let runs ← onPart (fun runs => { buffer with runs := runs }) change
  pure { buffer with runs := runs }

def addAttribute (buffer : Buffer) (name : String) (value : Value) (span : Span) :
    Attempt Buffer Buffer :=
  buffer.restyle (buffer.runs.addAttribute name value span)

def removeAttribute (buffer : Buffer) (name : String) (span : Span) : Attempt Buffer Buffer :=
  buffer.restyle (buffer.runs.removeAttribute name span)

def assignAttribute (buffer : Buffer) (name : String) (values : List (Option Value)) :
    Attempt Buffer Buffer :=
  buffer.restyle (buffer.runs.assignAttribute name values)

theorem exists_runs_of_restyle {buffer after : Buffer} {change : Attempt RunList RunList}
    (h : buffer.restyle change = .ok after) :
    ∃ runs, change = .ok runs ∧ after = { buffer with runs := runs } := by
  cases change with
  | error stopped => cases h
  | ok runs => exact ⟨runs, rfl, (Except.ok.inj h).symm⟩

/-- What is restyled, or was to be, differs in its runs at most. -/
theorem state_restyle (buffer : Buffer) (change : Attempt RunList RunList) :
    (buffer.restyle change).state = { buffer with runs := change.state } := by
  cases change <;> rfl

end Buffer

end MarkupEditor
