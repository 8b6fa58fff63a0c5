import MarkupEditor.Buffer.Pending
import MarkupEditor.Text.Lines

/-!
# Edits as differences

A span and a change of length tell what has become of an earlier text: outside
of the span the text is the earlier one, moved along behind it.  Differences
compose, and what a pending edit records is the composition of all edits so far.
-/

namespace MarkupEditor

/-- What a span of the new text and the change of length say about an old text. -/
structure Diff (old new : List Char) (span : Span) (delta : Int) : Prop where
  stop_le : span.stop ≤ new.length
  start_le : (span.start : Int) ≤ span.stop - delta
  covered_le : span.stop - delta ≤ old.length
  delta_eq : delta = new.length - old.length
  text_eq : new = old.take span.start ++ (new.drop span.start).take span.length
    ++ old.drop (span.stop - delta).toNat

namespace Diff

variable {old middle new : List Char} {span : Span} {delta : Int}

theorem before (h : Diff old new span delta) : new.take span.start = old.take span.start := by
  have hstart : span.start ≤ (old.take span.start).length := by
    have hle := h.start_le
    have hcovered := h.covered_le
    rw [List.length_take]
    omega
  rw [h.text_eq, List.append_assoc, List.take_append_of_le_length hstart, List.take_take,
    Nat.min_self]

theorem behind (h : Diff old new span delta) :
    new.drop span.stop = old.drop (span.stop - delta).toNat := by
  have hlength : (old.take span.start ++ (new.drop span.start).take span.length).length =
      span.stop := by
    have hle := h.start_le
    have hcovered := h.covered_le
    have hstop := h.stop_le
    simp only [Span.stop] at hle hcovered hstop ⊢
    rw [List.length_append, List.length_take, List.length_take, List.length_drop]
    omega
  calc
    new.drop span.stop =
        (old.take span.start ++ (new.drop span.start).take span.length
          ++ old.drop (span.stop - delta).toNat).drop span.stop :=
      congrArg (List.drop span.stop) h.text_eq
    _ = old.drop (span.stop - delta).toNat := List.drop_left' hlength

/-- Two texts that agree before a span and behind it differ in the span. -/
theorem of_outside (hstop : span.stop ≤ new.length)
    (hstart : (span.start : Int) ≤ span.stop - delta)
    (hdelta : delta = (new.length : Int) - old.length)
    (hbefore : new.take span.start = old.take span.start)
    (hbehind : new.drop span.stop = old.drop (span.stop - delta).toNat) :
    Diff old new span delta where
  stop_le := hstop
  start_le := hstart
  covered_le := by omega
  delta_eq := hdelta
  text_eq := by
    calc
      new = new.take span.start ++ new.drop span.start := (List.take_append_drop ..).symm
      _ = new.take span.start ++ ((new.drop span.start).take span.length
            ++ (new.drop span.start).drop span.length) := by
        rw [List.take_append_drop span.length]
      _ = old.take span.start ++ (new.drop span.start).take span.length
            ++ old.drop (span.stop - delta).toNat := by
        rw [List.drop_drop, hbefore, ← hbehind, List.append_assoc]
        rfl

theorem refl (text : List Char) {span : Span} (hspan : span.stop ≤ text.length) :
    Diff text text span 0 := by
  apply of_outside hspan _ (Int.sub_self _).symm rfl
  · rw [Int.sub_zero, Int.toNat_natCast]
  · rw [Int.sub_zero, Span.stop]
    omega

/-- Putting a text in the place of a span. -/
theorem replaceSpan (text inserted : List Char) {span : Span} (hspan : span.stop ≤ text.length) :
    Diff text (Text.replaceSpan span.start span.length inserted text)
      ⟨span.start, inserted.length⟩ ((inserted.length : Int) - span.length) := by
  have hstart : (text.take span.start).length = span.start := by
    simp only [Span.stop] at hspan
    rw [List.length_take]
    omega
  have hfront : (text.take span.start ++ inserted).length = span.start + inserted.length := by
    rw [List.length_append, hstart]
  have hcovered : (((span.start + inserted.length : Nat) : Int)
      - ((inserted.length : Int) - span.length)).toNat = span.start + span.length := by
    omega
  simp only [Span.stop] at hspan
  rw [Text.replaceSpan_eq]
  apply of_outside
  · simp only [Span.stop, List.length_append] at hfront ⊢
    omega
  · simp only [Span.stop]
    omega
  · rw [List.length_append, hfront, List.length_drop]
    omega
  · rw [List.append_assoc]
    exact List.take_left' hstart
  · rw [Span.stop, hcovered]
    exact List.drop_left' hfront

/-- The union of two spans, each taken to the last text, covers both differences. -/
theorem trans {earlier later : Span} {delta' : Int} (h : Diff old middle earlier delta)
    (h' : Diff middle new later delta') {span : Span}
    (hstart : span.start = min later.start earlier.start)
    (hstop : (span.stop : Int) = max (later.stop : Int) (earlier.stop + delta')) :
    Diff old new span (delta + delta') := by
  have hlater := h'.stop_le
  have hearlier := h.stop_le
  have hfirst := h.start_le
  have hdelta := h.delta_eq
  have hdelta' := h'.delta_eq
  apply of_outside
  · omega
  · omega
  · omega
  · calc
      new.take span.start = (new.take later.start).take span.start := by
        rw [List.take_take, Nat.min_eq_left (by omega)]
      _ = (middle.take earlier.start).take span.start := by
        rw [h'.before, List.take_take, List.take_take, Nat.min_eq_left (by omega),
          Nat.min_eq_left (by omega)]
      _ = old.take span.start := by
        rw [h.before, List.take_take, Nat.min_eq_left (by omega)]
  · calc
      new.drop span.stop = (new.drop later.stop).drop (span.stop - later.stop) := by
        rw [List.drop_drop, Nat.add_sub_of_le (by omega)]
      _ = (middle.drop earlier.stop).drop (span.stop - delta' - earlier.stop).toNat := by
        rw [h'.behind, List.drop_drop, List.drop_drop]
        have hcovered := h'.start_le
        congr 1
        omega
      _ = old.drop (span.stop - (delta + delta')).toNat := by
        rw [h.behind, List.drop_drop]
        congr 1
        omega

end Diff

end MarkupEditor
