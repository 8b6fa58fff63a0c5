import MarkupEditor.Failure

/-!
# Spans of a text

A span is a stretch of neighbouring offsets.  Callers name spans by integers,
and a negative location or length is refused before anything else happens.
-/

namespace MarkupEditor

structure Span where
  start : Nat
  length : Nat
deriving DecidableEq

namespace Span

/-- The first offset behind a span. -/
def stop (span : Span) : Nat := span.start + span.length

/-- The span with the given location and length. -/
def ofInts (location length : Int) : Except Failure Span :=
  if location < 0 ∨ length < 0 then .error (.invalidRange location length)
  else .ok ⟨location.toNat, length.toNat⟩

/-- The span given by its two coordinates. -/
def ofCoordinates : List Int → Except Failure Span
  | [location, length] => ofInts location length
  | coordinates => .error (.coordinateCount coordinates.length)

/-- All offsets of a text of some length. -/
def whole (length : Nat) : Span := ⟨0, length⟩

def contains (span : Span) (offset : Int) : Bool :=
  (span.start : Int) ≤ offset && offset < (span.stop : Int)

/-- The smallest span around two spans. -/
def union (left right : Span) : Span :=
  let start := min left.start right.start
  ⟨start, max left.stop right.stop - start⟩

def shift (span : Span) (distance : Nat) : Span := ⟨span.start + distance, span.length⟩

/-- How messages show a span. -/
def printed (span : Span) : String :=
  s!"TextRange(location={span.start}, length={span.length})"

/-- Refuses a span that ends behind a text of the given length. -/
def within (span : Span) (length : Int) : Except Failure Unit :=
  if length < span.stop then .error (.rangeOutOfBounds span.start span.stop length) else .ok ()

theorem ofInts_natCast (start length : Nat) :
    ofInts (start : Int) (length : Int) = .ok ⟨start, length⟩ := by
  simp [ofInts]

theorem stop_union (left right : Span) :
    (left.union right).stop = max left.stop right.stop := by
  simp only [union, stop]
  omega

theorem within_eq_pure {span : Span} {length : Int} (h : (span.stop : Int) ≤ length) :
    span.within length = pure () := by
  rw [within, if_neg (Int.not_lt.2 h)]
  rfl

theorem within_eq_error {span : Span} {length : Int} (h : ¬ (span.stop : Int) ≤ length) :
    span.within length = .error (.rangeOutOfBounds span.start span.stop length) := by
  rw [within, if_pos (Int.not_le.1 h)]

theorem le_of_within_eq_ok {span : Span} {length : Int} {done : Unit}
    (h : span.within length = .ok done) : (span.stop : Int) ≤ length := by
  rw [within] at h
  split at h
  · cases h
  · next hle => exact Int.not_lt.1 hle

end Span

end MarkupEditor
