import MarkupEditor.Editor.Keys

/-!
# Keyboards

A keyboard sends bytes.  Keys without a character of their own send several, of
which the first is an escape.
-/

namespace MarkupEditor.Keyboard

/-- The bytes behind the escape that stand for a key. -/
def sequences : List (List Char × Int) :=
  [(['[', 'A'], Key.up), (['[', 'B'], Key.down), (['[', 'C'], Key.right), (['[', 'D'], Key.left),
   (['[', 'H'], Key.home), (['[', 'F'], Key.lineEnd), (['[', '1', '~'], Key.home),
   (['[', '4', '~'], Key.lineEnd), (['[', '3', '~'], Key.deleteChar),
   (['[', '5', '~'], Key.pageUp), (['[', '6', '~'], Key.pageDown)]

/-- The bytes that stand for keys, from the escape on. -/
def known : List (List Nat × Int) :=
  sequences.map fun (letters, key) => (0x1B :: letters.map Char.toNat, key)

/-- Reads a byte behind the ones still waiting: what is waiting now, and the key
that has been completed.  A byte alone is the key of its number, but that a
carriage return stands for a line feed. -/
def read (waiting : List Nat) (byte : Nat) : List Nat × Option Int :=
  let bytes := waiting ++ [byte]
  match known.lookup bytes with
  | some key => ([], some key)
  | none =>
    if known.any fun (begun, _) => bytes.isPrefixOf begun then (bytes, none)
    else if waiting.isEmpty then ([], some (if byte = 13 then 10 else byte))
    else ([], none)

end MarkupEditor.Keyboard
