import MarkupEditor.Span

/-!
# Pending edits

While edit transactions are open, a buffer sums up what has been edited: which
kinds of change there were, one span around all of them in the coordinates of
the present text, and by how much the length has changed.  A new edit first
carries the span recorded so far over into the text after it.
-/

namespace MarkupEditor

/-- Kinds of change are bits of a number, so that several can stand together. -/
def attributeChange : Nat := 1

def characterChange : Nat := 2

/-- What observers are told about a completed transaction. -/
structure Event where
  mask : Nat
  span : Span
  delta : Int
deriving DecidableEq

structure Pending where
  mask : Nat
  span : Option Span
  delta : Int
deriving DecidableEq

namespace Pending

/-- Nothing edited. -/
def none : Pending := ⟨0, .none, 0⟩

/-- Where an offset lies after an edit that changes the length of a span by
`delta`: before the span it stays, behind it moves along, and inside of it goes
no further than the end of the new text. -/
def carry (span : Span) (delta offset : Int) : Int :=
  if offset ≤ span.start then offset
  else if span.stop ≤ offset then offset + delta
  else min offset (span.start + (span.length + delta))

/-- Records one more edit.  The span is the one before the edit. -/
def record (pending : Pending) (mask : Nat) (span : Span) (delta : Int) :
    Except Failure Pending := do
  let after ← Span.ofInts span.start (span.length + delta)
  match pending.span with
  | .none => pure ⟨pending.mask ||| mask, some after, pending.delta + delta⟩
  | some earlier =>
    let start := carry span delta earlier.start
    let stop := carry span delta earlier.stop
    let carried ← Span.ofInts start (stop - start)
    pure ⟨pending.mask ||| mask, some (after.union carried), pending.delta + delta⟩

/-- The event that reports everything pending. -/
def event (pending : Pending) : Event :=
  ⟨pending.mask, pending.span.getD ⟨0, 0⟩, pending.delta⟩

end Pending

end MarkupEditor
