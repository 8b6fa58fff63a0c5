import MarkupEditor.Proofs.Runs.History

/-!
# Effective ranges

Asked for a character, a run list answers with its attribute set and the span of its run.
Since the runs lie end to end and no two neighbors are alike, that span is the largest
around the character in which all characters are styled alike; each character of it gets
the same answer, and the spans of all answers divide the text among them.
-/

namespace MarkupEditor

theorem Span.contains_int_iff {span : Span} {offset : Int} :
    span.contains offset ↔ (span.start : Int) ≤ offset ∧ offset < span.stop := by
  simp [Span.contains]

namespace RunList

/-- The characters of a span have alike attribute sets; those next to the span, if any,
have others. -/
structure Effective (list : RunList) (attributes : AttributeSet) (span : Span) : Prop where
  within : (span.stop : Int) ≤ list.length
  inside : ∀ offset : Nat, span.contains offset →
    ∃ cell, list.cells[offset]? = some cell ∧ cell.Alike attributes
  before : 0 < span.start →
    ∃ cell, list.cells[span.start - 1]? = some cell ∧ ¬ cell.Alike attributes
  behind : (span.stop : Int) < list.length →
    ∃ cell, list.cells[span.stop]? = some cell ∧ ¬ cell.Alike attributes

/-- A span that is the answer for some offset. -/
def IsRange (list : RunList) (span : Span) : Prop :=
  ∃ offset attributes, list.attributesAt offset = .ok (attributes, span)

variable {list : RunList} {offset : Int} {left right : List Run} {run next : Run}

theorem not_alike_of_apart (h : Apart (left ++ run :: next :: right)) :
    ¬ run.attributes.Alike next.attributes := by
  induction left with
  | nil => exact h.1
  | cons first left ih =>
      apply ih
      cases left with
      | nil => exact h.2
      | cons second left => exact h.2

namespace HeldBy

/-- The character before a run is held by the run before it. -/
theorem previous (h : list.WellFormed)
    (hheld : HeldBy list offset (left ++ [next]) run right) :
    HeldBy list (run.start - 1) left next (run :: right) := by
  have hruns : list.runs = left ++ next :: run :: right := by
    rw [hheld.runs, List.append_assoc]
    rfl
  have hlength : 0 < next.length := h.nonempty next (by simp [hruns])
  obtain ⟨middle, -, -, hstart, -⟩ := laidOut_append.1 (hruns ▸ h.laidOut)
  refine ⟨hruns, ?_, ?_⟩
  · rw [hstart, Run.stop]
    omega
  · rw [hstart]
    omega

/-- The character behind a run is held by the run behind it. -/
theorem following (h : list.WellFormed)
    (hheld : HeldBy list offset left run (next :: right)) :
    HeldBy list run.stop (left ++ [run]) next right := by
  have hruns : list.runs = left ++ [run] ++ next :: right := by
    rw [hheld.runs, List.append_assoc]
    rfl
  have hlength : 0 < next.length := h.nonempty next (by simp [hruns])
  obtain ⟨middle, -, -, hstart, -⟩ := laidOut_append.1 (hheld.runs ▸ h.laidOut)
  refine ⟨hruns, Int.le_of_eq hstart, ?_⟩
  rw [← hstart, Run.stop]
  omega

/-- The span of a run is as large as it can be. -/
theorem effective (h : list.Canonical) (hheld : HeldBy list offset left run right) {span : Span}
    (hstart : (span.start : Int) = run.start) (hstop : (span.stop : Int) = run.stop) :
    list.Effective run.attributes span where
  within := hstop ▸ hheld.stop_le_length h.toWellFormed
  inside := by
    intro place hplace
    obtain ⟨hfirst, hlast⟩ := Span.contains_int_iff.1 hplace
    have hother : HeldBy list place left run right := ⟨hheld.runs, by omega, by omega⟩
    exact ⟨run.attributes, hother.getElem?_cells h.toWellFormed, AttributeSet.Alike.refl _⟩
  before := by
    intro hpos
    rcases List.eq_nil_or_concat left with rfl | ⟨left, previous, rfl⟩
    · have hfirst := hheld.length_cellsOf_left h.toWellFormed
      rw [← hstart] at hfirst
      exact absurd hfirst (by simp; omega)
    · rw [List.concat_eq_append] at hheld
      have hprevious := hheld.previous h.toWellFormed
      have hcell := hprevious.getElem?_cells h.toWellFormed
      have hplace : (run.start - 1).toNat = span.start - 1 := by omega
      rw [hplace] at hcell
      exact ⟨previous.attributes, hcell, not_alike_of_apart (hprevious.runs ▸ h.apart)⟩
  behind := by
    intro hlt
    cases right with
    | nil =>
        obtain ⟨middle, -, -, hend⟩ := laidOut_append.1 (hheld.runs ▸ h.laidOut)
        have hlength : run.stop = list.length := hend
        omega
    | cons next right =>
        have hnext := hheld.following h.toWellFormed
        have hcell := hnext.getElem?_cells h.toWellFormed
        have hplace : run.stop.toNat = span.stop := by omega
        rw [hplace] at hcell
        refine ⟨next.attributes, hcell, fun halike => ?_⟩
        exact not_alike_of_apart (hheld.runs ▸ h.apart) halike.symm

end HeldBy

/-- A character's answer is its attribute set and its effective range, and any other
character in this range has the same answer. -/
theorem exists_attributesAt_effective (h : list.Canonical) (hle : 0 ≤ offset)
    (hlt : offset < list.length) :
    ∃ attributes span, list.attributesAt offset = .ok (attributes, span) ∧
      span.contains offset ∧ list.cells[offset.toNat]? = some attributes ∧
      list.Effective attributes span ∧
      ∀ other : Int, span.contains other → list.attributesAt other = .ok (attributes, span) := by
  obtain ⟨left, run, right, hheld⟩ := exists_heldBy h.toWellFormed hle hlt
  obtain ⟨span, hspan, hstart, hstop⟩ := hheld.exists_span h.toWellFormed
  have hanswer (other : Int) (hother : span.contains other) :
      list.attributesAt other = .ok (run.attributes, span) := by
    obtain ⟨hfirst, hlast⟩ := Span.contains_int_iff.1 hother
    have hsame : HeldBy list other left run right := ⟨hheld.runs, by omega, by omega⟩
    rw [hsame.attributesAt_eq h.toWellFormed, hspan]
    rfl
  have hcontains : span.contains offset := by
    rw [Span.contains_int_iff, hstart, hstop]
    exact ⟨hheld.start_le, hheld.lt_stop⟩
  exact ⟨run.attributes, span, hanswer offset hcontains, hcontains,
    hheld.getElem?_cells h.toWellFormed, hheld.effective h hstart hstop, hanswer⟩

theorem attributesAt_eq_error (h : ¬ (0 ≤ offset ∧ offset < list.length)) :
    list.attributesAt offset = .error (.offsetOutOfBounds offset list.length) := by
  rw [attributesAt, if_pos (by omega)]

/-- What a run list answers for an offset is so for a character in a text. -/
theorem effective_of_attributesAt (h : list.Canonical) {attributes : AttributeSet} {span : Span}
    (hanswer : list.attributesAt offset = .ok (attributes, span)) :
    (0 ≤ offset ∧ offset < list.length) ∧ span.contains offset ∧
      list.cells[offset.toNat]? = some attributes ∧ list.Effective attributes span ∧
      ∀ other : Int, span.contains other → list.attributesAt other = .ok (attributes, span) := by
  by_cases hin : 0 ≤ offset ∧ offset < list.length
  · obtain ⟨attributes', span', hanswer', heffective⟩ :=
      exists_attributesAt_effective h hin.1 hin.2
    rw [hanswer] at hanswer'
    obtain ⟨rfl, rfl⟩ := Prod.mk.inj (Except.ok.inj hanswer')
    exact ⟨hin, heffective⟩
  · rw [attributesAt_eq_error hin] at hanswer
    cases hanswer

/-- The spans of all answers divide the characters among them. -/
theorem existsUnique_range (h : list.Canonical) (hle : 0 ≤ offset) (hlt : offset < list.length) :
    ∃! span, list.IsRange span ∧ span.contains offset := by
  obtain ⟨attributes, span, hanswer, hcontains, -⟩ := exists_attributesAt_effective h hle hlt
  refine ⟨span, ⟨⟨offset, attributes, hanswer⟩, hcontains⟩, ?_⟩
  rintro span' ⟨⟨offset', attributes', hanswer'⟩, hcontains'⟩
  -- The other span is the answer for all its offsets, so for this one, too.
  obtain ⟨-, -, -, -, hsame⟩ := effective_of_attributesAt h hanswer'
  have heq := hsame offset hcontains'
  rw [hanswer] at heq
  exact (Prod.mk.inj (Except.ok.inj heq)).2.symm

/-- After every history a look-up at a character answers with its attribute set and the
largest span around it that is styled alike, and any other offset is refused.  A look-up
changes nothing.  The spans of all answers divide the characters among them. -/
theorem effective_attributesAt_ofHistory (history : List Operation) :
    (∀ offset : Int, match (ofHistory history).attributesAt offset with
      | .ok (attributes, span) =>
        (0 ≤ offset ∧ offset < (ofHistory history).length) ∧ span.contains offset ∧
          (ofHistory history).cells[offset.toNat]? = some attributes ∧
          (ofHistory history).Effective attributes span ∧
          ∀ other : Int, span.contains other →
            (ofHistory history).attributesAt other = .ok (attributes, span)
      | .error failure =>
        ¬ (0 ≤ offset ∧ offset < (ofHistory history).length) ∧
          failure = .offsetOutOfBounds offset (ofHistory history).length) ∧
      (∀ offset : Int,
        (Operation.attributesAt offset).after (ofHistory history) = ofHistory history) ∧
      ∀ offset : Int, 0 ≤ offset → offset < (ofHistory history).length →
        ∃! span, (ofHistory history).IsRange span ∧ span.contains offset := by
  have h : (ofHistory history).Canonical := canonical_foldl_after canonical_empty history
  refine ⟨?_, ?_, ?_⟩
  · intro offset
    by_cases hin : 0 ≤ offset ∧ offset < (ofHistory history).length
    · obtain ⟨attributes, span, hanswer, heffective⟩ :=
        exists_attributesAt_effective h hin.1 hin.2
      rw [hanswer]
      exact ⟨hin, heffective⟩
    · rw [attributesAt_eq_error hin]
      exact ⟨hin, rfl⟩
  · intro offset
    rw [Operation.after, Operation.apply]
    cases (ofHistory history).attributesAt offset with
    | ok answer => rfl
    | error failure => rfl
  · intro offset hle hlt
    exact existsUnique_range h hle hlt

/-- One and true are alike, so the two spans that bear them make one range. -/
example :
    (((ofHistory [.replace ⟨0, 0⟩ 6 none, .addAttribute "a" (.integer 1) ⟨1, 2⟩,
      .addAttribute "a" (.bool true) ⟨3, 2⟩]).attributesAt 2).toOption.map Prod.snd) =
        some ⟨1, 4⟩ := by
  decide +kernel

end RunList

end MarkupEditor
