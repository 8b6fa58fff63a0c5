import MarkupEditor.Number.Decimal
import MarkupEditor.Text.Quoted
import MarkupEditor.Value.Basic

/-!
# Values in messages

The text that stands for a value in a message: every kind of value has a
notation of its own, with quoted text and parts separated by a comma and a
space.
-/

namespace MarkupEditor.Value

mutual

def printed : Value → String
  | .null => "None"
  | .bool value => if value then "True" else "False"
  | .integer value => toString value
  | .real value => value.render
  | .text value => quoted value
  | .list items => "[" ++ ", ".intercalate (printedItems items) ++ "]"
  | .record fields => "\x7b" ++ ", ".intercalate (printedFields fields) ++ "\x7d"
  | .font family size => "Font(family=" ++ family.printed ++ ", size=" ++ size.printed ++ ")"

def printedItems : List Value → List String
  | [] => []
  | item :: rest => item.printed :: printedItems rest

def printedFields : List (String × Value) → List String
  | [] => []
  | (name, value) :: rest => (quoted name ++ ": " ++ value.printed) :: printedFields rest

end

end MarkupEditor.Value
