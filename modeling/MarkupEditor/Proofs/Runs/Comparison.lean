import MarkupEditor.Proofs.Runs.EffectiveRange
import MarkupEditor.Proofs.Runs.Layers
import MarkupEditor.Proofs.Runs.Uniqueness

/-!
# Comparing run lists

To compare the runs of two run lists is to compare what they say of each character.  One
direction holds of runs of any shape.  The other one is what makes canonical run lists
canonical: two histories that end in the same styling end in the same runs.
-/

namespace MarkupEditor.RunList

/-- Run lists of as many characters that answer for each of them with alike attribute sets. -/
structure StyledAlike (list list' : RunList) : Prop where
  length : list.length = list'.length
  answers : ∀ offset : Int, 0 ≤ offset → offset < list.length →
    ∃ answer answer', list.attributesAt offset = .ok answer ∧
      list'.attributesAt offset = .ok answer' ∧ answer.1.Alike answer'.1

variable {list list' : RunList} {left right : List Run}

/-! ### From runs to characters -/

theorem AlikeRuns.alikeCells (h : AlikeRuns left right) :
    AlikeCells (cellsOf left) (cellsOf right) := by
  induction h with
  | nil => exact .nil
  | @cons run run' left right hrun _ ih =>
      rw [cellsOf_cons, cellsOf_cons, hrun.length]
      exact (alikeCells_replicate hrun.attributes _).append ih

theorem AlikeRuns.total_eq (h : AlikeRuns left right) : total left = total right := by
  induction h with
  | nil => rfl
  | @cons run run' left right hrun _ ih => rw [total_cons, total_cons, hrun.length, ih]

theorem AlikeRuns.length_eq (h : list.WellFormed) (h' : list'.WellFormed)
    (hruns : AlikeRuns list.runs list'.runs) : list.length = list'.length := by
  have hlength : 0 + total list.runs = list.length := total_of_laidOut h.laidOut
  have hlength' : 0 + total list'.runs = list'.length := total_of_laidOut h'.laidOut
  rw [← hlength, ← hlength', hruns.total_eq]

theorem StyledAlike.of_alikeRuns (h : list.Canonical) (h' : list'.Canonical)
    (hruns : AlikeRuns list.runs list'.runs) : list.StyledAlike list' where
  length := hruns.length_eq h.toWellFormed h'.toWellFormed
  answers := by
    intro offset hle hlt
    have hlength : list.length = list'.length := hruns.length_eq h.toWellFormed h'.toWellFormed
    obtain ⟨attributes, span, hanswer, -, hcell, -⟩ := exists_attributesAt_effective h hle hlt
    obtain ⟨attributes', span', hanswer', -, hcell', -⟩ :=
      exists_attributesAt_effective h' hle (hlength ▸ hlt)
    have halike : Option.Rel AttributeSet.Alike list.cells[offset.toNat]?
        list'.cells[offset.toNat]? := alikeCells_iff_getElem?.1 hruns.alikeCells offset.toNat
    rw [hcell, hcell'] at halike
    cases halike with
    | some halike => exact ⟨_, _, hanswer, hanswer', halike⟩

/-! ### From characters to runs -/

theorem StyledAlike.alikeCells (h : list.Canonical) (h' : list'.Canonical)
    (hstyled : list.StyledAlike list') : AlikeCells list.cells list'.cells := by
  have hcount := h.toWellFormed.length_cells
  have hcount' := h'.toWellFormed.length_cells
  have hlength := hstyled.length
  rw [alikeCells_iff_getElem?]
  intro index
  by_cases hindex : index < list.cells.length
  · obtain ⟨answer, answer', hanswer, hanswer', halike⟩ :=
      hstyled.answers index (Int.natCast_nonneg _) (by omega)
    obtain ⟨-, -, hcell, -⟩ := effective_of_attributesAt h hanswer
    obtain ⟨-, -, hcell', -⟩ := effective_of_attributesAt h' hanswer'
    rw [Int.toNat_natCast] at hcell hcell'
    rw [hcell, hcell']
    exact .some halike
  · rw [List.getElem?_eq_none (by omega), List.getElem?_eq_none (by omega)]
    exact .none

theorem Canonical.alikeRuns_iff (h : list.Canonical) (h' : list'.Canonical) :
    AlikeRuns list.runs list'.runs ↔ list.StyledAlike list' := by
  constructor
  · exact StyledAlike.of_alikeRuns h h'
  · intro hstyled
    exact alikeRuns_of_alikeCells h.laidOut h'.laidOut h.nonempty h'.nonempty h.apart h'.apart
      (hstyled.alikeCells h h')

/-- After any two histories the runs are as many, at the same places and alike, exactly if
there are as many characters and each has alike attribute sets. -/
theorem alikeRuns_iff_ofHistory (history history' : List Operation) :
    AlikeRuns (ofHistory history).runs (ofHistory history').runs ↔
      (ofHistory history).StyledAlike (ofHistory history') :=
  Canonical.alikeRuns_iff (canonical_foldl_after canonical_empty history)
    (canonical_foldl_after canonical_empty history')

/-- One value is added twice over, or another one alike to it in three pieces. -/
example :
    (ofHistory [.replace ⟨0, 0⟩ 4 none, .addAttribute "a" (.integer 1) ⟨1, 2⟩,
        .addAttribute "a" (.integer 1) ⟨2, 2⟩]).runs.map (fun run => (run.start, run.length)) =
      (ofHistory [.replace ⟨0, 0⟩ 1 none, .replace ⟨1, 0⟩ 3 none,
        .assignAttribute "a" [none, some (.bool true), some (.integer 1), some (.bool true)]]).runs.map
          (fun run => (run.start, run.length)) := by
  decide +kernel

end MarkupEditor.RunList
