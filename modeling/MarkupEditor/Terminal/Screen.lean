/-!
# The terminal

The editor draws into panes of a terminal.  The terminal keeps a trace of the
requests made to it; a pane keeps the texts it shows.  A terminal may be a console,
which shows what is written, or a recorder, which only keeps it and so can keep more.
-/

namespace MarkupEditor

inductive PaneName where
  | numbers
  | code
  | status
  /-- The screen that holds the panes. -/
  | screen
deriving DecidableEq

namespace PaneName

def text : PaneName → String
  | .numbers => "numbers"
  | .code => "code"
  | .status => "status"
  | .screen => "screen"

end PaneName

/-- A request to the terminal. -/
inductive Request where
  | startColor
  /-- Makes a pair of a foreground and a background color known by a number. -/
  | definePair (number foreground background : Int)
  | openPane (name : PaneName) (height width row column : Int)
  | clear (name : PaneName)
  | flush (name : PaneName)
  | update
  | useDefaultColors
  | showCursor (visibility : Int)
  | waitAtMost (milliseconds : Int)
deriving DecidableEq

/-- How text is drawn: a color pair and marks, as the bits of a number. -/
abbrev Look := Nat

namespace Look

def normal : Look := 0

def bold : Look := 2097152

def reverse : Look := 262144

end Look

/-- What a screen is one of. -/
inductive Device where
  | console
  | recorder
deriving DecidableEq

namespace Device

/-- The look that draws in the color pair of a number.  A console has eight bits for the
number, and loses what does not fit into them. -/
def pair : Device → Nat → Look
  | .console, number => number % 256 * 256
  | .recorder, number => number * 256

/-- Whether a text can be written.  A console takes none with a NUL character. -/
def takes : Device → List Char → Bool
  | .console, text => !text.contains '\x00'
  | .recorder, _ => true

end Device

/-- What a screen can draw with. -/
structure Terminal where
  device : Device
  /-- The number of color pairs. -/
  pairs : Int

structure Screen where
  height : Int
  width : Int
  /-- The number of colors. -/
  colors : Int
  /-- The number of color pairs. -/
  pairs : Int
  device : Device
  /-- The requests made so far, the latest first. -/
  trace : List Request

namespace Screen

def terminal (screen : Screen) : Terminal := ⟨screen.device, screen.pairs⟩

def request (screen : Screen) (requests : List Request) : Screen :=
  { screen with trace := requests.reverse ++ screen.trace }

end Screen

/-- A text written into a pane. -/
structure Call where
  row : Int
  column : Int
  text : List Char
  look : Look
deriving DecidableEq

structure Pane where
  height : Int
  width : Int
  /-- The texts shown, in the order they were written. -/
  calls : List Call

namespace Pane

def new (height width : Int) : Pane := ⟨height, width, []⟩

/-- Clears a pane and writes into it. -/
def display (pane : Pane) (calls : List Call) : Pane := { pane with calls := calls }

/-- The call that writes a text as far as it fits: nothing below or to the right
of the pane, and no more characters than there are columns up to its right edge. -/
def fit (pane : Pane) (row column : Int) (text : List Char) (look : Look) : List Call :=
  if pane.height ≤ row ∨ pane.width ≤ column then []
  else [⟨row, column, text.take (pane.width - column).toNat, look⟩]

end Pane

end MarkupEditor
