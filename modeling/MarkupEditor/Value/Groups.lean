import MarkupEditor.Value.Basic

/-!
# Groups of alike values

A list of values, some of them absent, falls into groups of neighbours that are
alike.  A group is known by its first value.
-/

namespace MarkupEditor.Value

/-- Continues a group: the value it began with, and how many it holds so far. -/
def groupOnto (value : Option Value) (count : Nat) :
    List (Option Value) → List (Option Value × Nat)
  | [] => [(value, count)]
  | next :: rest =>
    if AlikeOption value next then groupOnto value (count + 1) rest
    else (value, count) :: groupOnto next 1 rest

/-- The groups of a list, each with the number of its members. -/
def groups : List (Option Value) → List (Option Value × Nat)
  | [] => []
  | value :: rest => groupOnto value 1 rest

end MarkupEditor.Value
