import MarkupEditor.Proofs.Markup.Bounds

/-!
# Matches in order

The matches of one search stand in the order of the text and do not overlap, and
each is made of the characters between its ends.  Searching the part of a text
that a match covers is therefore searching the match.
-/

namespace MarkupEditor

namespace Pattern

/-- No match begins in what an earlier one has taken. -/
theorem le_start_of_mem_scan {pattern : Pattern} {offset skip : Nat} {text : List Char}
    {found : Match} (h : found ∈ pattern.scan offset skip text) :
    offset + skip ≤ found.start := by
  induction text generalizing offset skip with
  | nil => cases skip <;> cases h
  | cons c rest ih =>
      cases skip with
      | zero => exact (scan_within h).1
      | succ skip =>
          have hrest : offset + 1 + skip ≤ found.start := ih h
          omega

theorem pairwise_scan (pattern : Pattern) (offset skip : Nat) (text : List Char) :
    (pattern.scan offset skip text).Pairwise fun left right => left.span.stop ≤ right.start := by
  induction text generalizing offset skip with
  | nil => cases skip <;> exact .nil
  | cons c rest ih =>
      cases skip with
      | succ skip => exact ih (offset + 1) skip
      | zero =>
          rw [scan]
          split
          · next length _ =>
            apply List.Pairwise.cons _ (ih (offset + 1) (length - 1))
            intro later hlater
            have hstart := le_start_of_mem_scan hlater
            have hlength : ((c :: rest).take length).length ≤ length := List.length_take_le ..
            simp only [Match.span, Span.stop]
            omega
          · split
            · exact .nil
            · exact ih (offset + 1) 0

/-- Of the matches of one search at most one covers an offset. -/
theorem pairwise_search (pattern : Pattern) (text : List Char) :
    (pattern.search text).Pairwise fun left right => left.span.stop ≤ right.start :=
  pattern.pairwise_scan 0 0 text

/-- A match is made of the characters from its start on. -/
theorem text_of_mem_scan {pattern : Pattern} {offset skip : Nat} {text : List Char} {found : Match}
    (h : found ∈ pattern.scan offset skip text) :
    found.text = (text.drop (found.start - offset)).take found.text.length := by
  induction text generalizing offset skip with
  | nil => cases skip <;> cases h
  | cons c rest ih =>
      have hlater {skip : Nat} (h : found ∈ pattern.scan (offset + 1) skip rest) :
          found.text = ((c :: rest).drop (found.start - offset)).take found.text.length := by
        have hstart : found.start - offset = found.start - (offset + 1) + 1 := by
          have hle := (scan_within h).1
          omega
        rw [hstart, List.drop_succ_cons]
        exact ih h
      cases skip with
      | succ skip => exact hlater h
      | zero =>
          rw [scan] at h
          split at h
          · next length _ =>
            rcases List.mem_cons.1 h with rfl | h
            · rw [Nat.sub_self, List.drop_zero, List.take_eq_take_iff, List.length_take]
              omega
            · exact hlater h
          · split at h
            · cases h
            · exact hlater h

/-- Searching the part of a text that a match covers is searching the match. -/
theorem findIn_span {pattern outer : Pattern} {text : List Char} {found : Match}
    (h : found ∈ outer.search text) :
    pattern.findIn text found.span = pattern.findInside found := by
  have hstop : found.span.stop ≤ text.length := stop_le_of_mem_findAll (List.mem_map_of_mem h)
  have hstart : found.span.start ≤ found.span.stop := Nat.le_add_right ..
  have htext : (text.take found.span.stop).drop found.span.start = found.text := by
    rw [List.drop_take, text_of_mem_scan h, Nat.sub_zero]
    simp [Match.span, Span.stop]
  rw [findIn, Nat.min_eq_left hstop, Nat.min_eq_left (Nat.le_trans hstart hstop), htext]
  rfl

end Pattern

end MarkupEditor
