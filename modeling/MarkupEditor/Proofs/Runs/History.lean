import MarkupEditor.Proofs.Runs.Refinement

/-!
# Histories of a run list

Whatever is asked of a run list, refused requests included, it stays canonical;
so in every run list that can be reached an operation succeeds exactly if it
fits, and then acts on the cells as on a plain list.
-/

namespace MarkupEditor.RunList

theorem canonical_foldl_after {list : RunList} (h : list.Canonical) (history : List Operation) :
    (history.foldl Operation.after list).Canonical := by
  induction history generalizing list with
  | nil => exact h
  | cons operation rest ih => exact ih (canonical_after h operation)

/-- After every history the runs lie end to end from zero, none is empty, the
starts are those of the runs, and no two neighbours are alike. -/
theorem canonical_ofHistory (history : List Operation) : (ofHistory history).Canonical :=
  canonical_foldl_after canonical_empty history

/-- After every history an operation that fits does to the cells what it would do
to a plain list of as many attribute sets, and any other is refused and leaves the
run list as it was. -/
theorem alikeCells_apply_ofHistory (history : List Operation) (operation : Operation) :
    match operation.apply (ofHistory history) with
    | .ok changed => operation.Fits (ofHistory history).length ∧
        AlikeCells changed.cells (operation.onCells (ofHistory history).cells) ∧
        (changed.cells.length : Int) = changed.length
    | .error stopped => ¬ operation.Fits (ofHistory history).length ∧
        stopped.left = ofHistory history := by
  have h : (ofHistory history).Canonical := canonical_foldl_after canonical_empty history
  by_cases hfits : operation.Fits (ofHistory history).length
  · obtain ⟨changed, happly, hrepresents⟩ := represents_apply h hfits
    have hlength := hrepresents.canonical.toWellFormed.length_cells
    rw [happly]
    exact ⟨hfits, hrepresents.alike, hlength⟩
  · obtain ⟨failure, happly⟩ := apply_eq_error hfits
    rw [happly]
    exact ⟨hfits, rfl⟩

example :
    ((ofHistory [.replace ⟨0, 0⟩ 6 none, .addAttribute "a" (.integer 1) ⟨1, 4⟩,
      .assignAttribute "a" [some (.bool true), some (.integer 1), none, none, none, none],
      .removeAttribute "a" ⟨5, 2⟩, .replace ⟨1, 3⟩ 1 none]).runs.map
        fun run => (run.start, run.length)) = [(0, 1), (1, 3)] := by
  decide +kernel

end MarkupEditor.RunList
