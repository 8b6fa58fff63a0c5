import MarkupEditor.Runs.Basic
import Mathlib.Data.List.Forall2

/-!
# Run lists character by character

What a run list says is the list of the attribute sets of its characters.  This
module has that view, and the shape that run lists keep: runs that lie end to
end from zero, all of them with characters, with their starts beside them, and
no two alike neighbours.  The operations that keep this shape are those that
never ask for a negative number of characters.
-/

namespace MarkupEditor.RunList

/-- The attribute set of every character that some runs style. -/
def cellsOf (runs : List Run) : List AttributeSet :=
  runs.flatMap fun run => List.replicate run.length.toNat run.attributes

/-- The sum of the lengths of some runs. -/
def total : List Run → Int
  | [] => 0
  | run :: rest => run.length + total rest

/-- The attribute set of every character. -/
def cells (list : RunList) : List AttributeSet := cellsOf list.runs

/-- Lists of attribute sets that are alike character by character. -/
abbrev AlikeCells : List AttributeSet → List AttributeSet → Prop :=
  List.Forall₂ AttributeSet.Alike

/-- Runs that lie end to end from one offset to another. -/
def LaidOut : Int → List Run → Int → Prop
  | start, [], stop => start = stop
  | start, run :: rest, stop => run.start = start ∧ LaidOut run.stop rest stop

/-- No two neighbours with alike attribute sets. -/
def Apart : List Run → Prop
  | first :: second :: rest =>
    ¬ first.attributes.Alike second.attributes ∧ Apart (second :: rest)
  | _ => True

/-- The shape of a run list while an operation works on it. -/
structure WellFormed (list : RunList) : Prop where
  laidOut : LaidOut 0 list.runs list.length
  nonempty : ∀ run ∈ list.runs, 0 < run.length
  starts : list.starts = list.runs.map Run.start

/-- The shape of a run list between operations. -/
structure Canonical (list : RunList) : Prop extends WellFormed list where
  apart : Apart list.runs

/-- Everything that can be asked of a run list.  An attribute set that is not
given stands for the empty one; the last two only look. -/
inductive Operation where
  | replace (span : Span) (newLength : Nat) (attributes : Option AttributeSet)
  | setAttributes (span : Span) (attributes : Option AttributeSet)
  | addAttribute (name : String) (value : Value) (span : Span)
  | removeAttribute (name : String) (span : Span)
  | assignAttribute (name : String) (values : List (Option Value))
  | attributesAt (offset : Int)
  | runs

namespace Operation

def apply (list : RunList) : Operation → Attempt RunList RunList
  | .replace span newLength attributes => list.replace span newLength (attributes.getD ∅)
  | .setAttributes span attributes => list.setAttributes span (attributes.getD ∅)
  | .addAttribute name value span => list.addAttribute name value span
  | .removeAttribute name span => list.removeAttribute name span
  | .assignAttribute name values => list.assignAttribute name values
  | .attributesAt offset => leaving list ((list.attributesAt offset).map fun _ => list)
  | .runs => .ok list

/-- The run list after an operation, or what there is of it when it is given up. -/
def after (list : RunList) (operation : Operation) : RunList :=
  Attempt.state (operation.apply list)

/-- What an operation asks of the number of characters. -/
def Fits (length : Int) : Operation → Prop
  | .replace span _ _ | .setAttributes span _ | .addAttribute _ _ span
  | .removeAttribute _ span => span.stop ≤ length
  | .assignAttribute _ values => (values.length : Int) = length
  | .attributesAt offset => 0 ≤ offset ∧ offset < length
  | .runs => True

/-- Changes the cells of a span. -/
def onSpan (cells : List AttributeSet) (span : Span)
    (change : List AttributeSet → List AttributeSet) : List AttributeSet :=
  cells.take span.start ++ change ((cells.drop span.start).take span.length)
    ++ cells.drop span.stop

/-- What an operation does to the attribute sets of the characters. -/
def onCells (cells : List AttributeSet) : Operation → List AttributeSet
  | .replace span newLength attributes =>
    onSpan cells span fun _ => List.replicate newLength (attributes.getD ∅)
  | .setAttributes span attributes => onSpan cells span (List.map fun _ => attributes.getD ∅)
  | .addAttribute name value span => onSpan cells span (List.map (·.insert name value))
  | .removeAttribute name span => onSpan cells span (List.map (·.erase name))
  | .assignAttribute name values =>
    List.zipWith (fun attributes value => attributes.assign name value) cells values
  | .attributesAt _ | .runs => cells

end Operation

/-- The run list after a history of operations on the empty one. -/
def ofHistory (history : List Operation) : RunList := history.foldl Operation.after ∅

end MarkupEditor.RunList
