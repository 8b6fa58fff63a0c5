import MarkupEditor.Attempt
import MarkupEditor.Attributes
import MarkupEditor.Span
import MarkupEditor.Value.Groups

/-!
# Run lists

A run list says how each character of a text is styled, as neighbouring runs of
characters with alike attribute sets.  The starts of the runs are kept beside
them as an index.  An operation first splits the runs at the ends of the span it
works on, then changes the runs in between, and last joins neighbours that have
become alike; of two alike runs the left one's attribute set stays.  Where an
operation is given up, the runs are left as they are by then, split or not.

Lengths are signed.  A span may be replaced by a negative number of characters:
the list gets shorter by them, and the run that owes them stands among the
others until alike neighbours make up for it.  The runs of a text owe nothing.
-/

namespace MarkupEditor

structure Run where
  start : Int
  length : Int
  attributes : AttributeSet

namespace Run

def stop (run : Run) : Int := run.start + run.length

/-- The span of a run; a run that owes characters has none. -/
def span (run : Run) : Except Failure Span := Span.ofInts run.start run.length

end Run

structure RunList where
  runs : List Run
  /-- The start of every run. -/
  starts : List Int
  /-- The number of characters styled. -/
  length : Int

namespace RunList

/-- The run list of the empty text. -/
def empty : RunList := ⟨[], [], 0⟩

instance : EmptyCollection RunList := ⟨empty⟩

instance : Inhabited RunList := ⟨empty⟩

/-- Looks between two positions for the first start behind an offset, by halving:
of starts in order, those before the position found are no greater than the
offset.  The first argument bounds the number of halvings. -/
def bisect (starts : List Int) (offset : Int) : (fuel low high : Nat) → Nat
  | 0, low, _ => low
  | fuel + 1, low, high =>
    if low < high then
      let middle := (low + high) / 2
      if offset < starts.getD middle 0 then bisect starts offset fuel low middle
      else bisect starts offset fuel (middle + 1) high
    else low

/-- The position of the last run that starts at or before an offset. -/
def indexAt (list : RunList) (offset : Int) : Nat :=
  bisect list.starts offset list.starts.length 0 list.starts.length - 1

/-- Makes a run start at an offset, and gives the position of that run; behind
the last character, the number of runs. -/
def splitAt (list : RunList) (offset : Nat) : Attempt RunList (RunList × Nat) :=
  if list.length ≤ offset then .ok (list, list.runs.length)
  else
    let index := list.indexAt offset
    match list.runs[index]? with
    | none => .error ⟨.missingItem, list⟩
    | some run =>
      if run.start = offset then .ok (list, index)
      else
        let head : Run := { run with length := offset - run.start }
        let tail : Run := ⟨offset, run.length - head.length, run.attributes⟩
        .ok ({ list with
            runs := list.runs.take index ++ head :: tail :: list.runs.drop (index + 1)
            starts := list.starts.take (index + 1) ++ tail.start :: list.starts.drop (index + 1) },
          index + 1)

/-- Splits at both ends of a span; the runs from the first position up to the
second one then cover exactly the span. -/
def slice (list : RunList) (span : Span) : Attempt RunList (RunList × Nat × Nat) := do
  let (atStart, first) ← list.splitAt span.start
  let (atStop, last) ← atStart.splitAt span.stop
  pure (atStop, first, last)

/-- Continues joining behind a run that may still grow. -/
def joinOnto (current : Run) : List Run → List Run
  | [] => [current]
  | run :: rest =>
    if run.length = 0 then joinOnto current rest
    else if current.attributes.Alike run.attributes then
      joinOnto { current with length := current.length + run.length } rest
    else current :: joinOnto ⟨current.stop, run.length, run.attributes⟩ rest

/-- Drops empty runs, joins alike neighbours, and lays the rest end to end. -/
def join : List Run → List Run
  | [] => []
  | run :: rest =>
    if run.length = 0 then join rest else joinOnto ⟨0, run.length, run.attributes⟩ rest

/-- The run list of joined runs. -/
def ofRuns (runs : List Run) (length : Int) : RunList :=
  let joined := join runs
  ⟨joined, joined.map Run.start, length⟩

/-- Changes the runs between two positions; where the second one comes first,
what the change makes of nothing goes in at the first position. -/
def splice (runs : List Run) (first last : Nat) (change : List Run → List Run) : List Run :=
  runs.take first ++ change ((runs.drop first).take (last - first)) ++ runs.drop (max first last)

/-- Changes the runs of a span. -/
def modify (list : RunList) (span : Span) (change : List Run → List Run) :
    Attempt RunList RunList := do
  let (split, first, last) ← list.slice span
  pure (ofRuns (splice split.runs first last change) list.length)

/-- The attribute set of a character, and the span of the run that holds it. -/
def attributesAt (list : RunList) (offset : Int) : Except Failure (AttributeSet × Span) :=
  if offset < 0 ∨ list.length ≤ offset then .error (.offsetOutOfBounds offset list.length)
  else
    match list.runs[list.indexAt offset]? with
    | some run => run.span.map fun span => (run.attributes, span)
    | none => .error .missingItem

/-- Changes the runs of a span that has to lie inside the text; an empty span
has no runs to change. -/
def modifyWithin (list : RunList) (span : Span) (change : List Run → List Run) :
    Attempt RunList RunList := do
  leaving list (span.within list.length)
  if span.length = 0 then pure list else list.modify span change

/-- Gives a span an attribute set of its own. -/
def setAttributes (list : RunList) (span : Span) (attributes : AttributeSet) :
    Attempt RunList RunList :=
  list.modifyWithin span fun _ => [⟨span.start, span.length, attributes⟩]

/-- Gives one attribute a value over a span. -/
def addAttribute (list : RunList) (name : String) (value : Value) (span : Span) :
    Attempt RunList RunList :=
  list.modifyWithin span fun runs =>
    runs.map fun run => { run with attributes := run.attributes.insert name value }

/-- Takes one attribute away over a span. -/
def removeAttribute (list : RunList) (name : String) (span : Span) : Attempt RunList RunList :=
  list.modifyWithin span fun runs =>
    runs.map fun run => { run with attributes := run.attributes.erase name }

/-- Replaces the characters of a span by a number of characters that all carry
one attribute set. -/
def replace (list : RunList) (span : Span) (newLength : Int) (attributes : AttributeSet) :
    Attempt RunList RunList := do
  leaving list (span.within list.length)
  let (split, first, last) ← list.slice span
  pure (ofRuns (splice split.runs first last fun _ => [⟨span.start, newLength, attributes⟩])
    (list.length + newLength - span.length))

/-- The position that an index into some items stands for; a negative index
counts back from the end. -/
def position (count : Nat) (index : Int) : Nat :=
  if index < 0 then (index + count).toNat else index.toNat

/-- The values at the characters of a run. -/
def valuesOf (values : Array (Option Value)) (run : Run) : List (Option Value) :=
  (values.extract (position values.size run.start) (position values.size run.stop)).toList

/-- The runs of a run whose characters get values for one attribute. -/
def assignRuns (attributes : AttributeSet) (name : String) :
    Int → List (Option Value × Nat) → List Run
  | _, [] => []
  | start, (value, count) :: rest =>
    ⟨start, count, attributes.assign name value⟩ ::
      assignRuns attributes name (start + count) rest

/-- Gives one attribute a value at every character, or takes it away there. -/
def assignAttribute (list : RunList) (name : String) (values : List (Option Value)) :
    Attempt RunList RunList :=
  if (values.length : Int) = list.length then
    let table := values.toArray
    .ok (ofRuns (list.runs.flatMap fun run =>
      assignRuns run.attributes name run.start (Value.groups (valuesOf table run))) list.length)
  else .error ⟨.valueCount list.length values.length, list⟩

end RunList

end MarkupEditor
