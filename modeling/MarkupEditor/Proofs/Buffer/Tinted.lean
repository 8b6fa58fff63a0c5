import MarkupEditor.Proofs.Buffer.Unstyled

/-!
# Stored colors

Where all text is plain, the colors that characters have come from passes only: text
takes over the attributes it finds, and finds none in an empty text.  So every color
stored is one of the palette, as long as the palette is not changed.
-/

namespace MarkupEditor.Buffer

variable {buffer after : Buffer}

/-- An attribute set with the color of a layer or none. -/
def Tints (buffer : Buffer) (attributes : AttributeSet) : Prop :=
  ∃ layer : Option Layer, attributes.get? colorName = layer.map buffer.colorValue

def Tinted (buffer : Buffer) : Prop := ∀ cell ∈ buffer.runs.cells, buffer.Tints cell

theorem Consistent.tinted_of_text_eq_nil (h : buffer.Consistent) (htext : buffer.text = []) :
    buffer.Tinted := by
  have hcells : buffer.runs.cells = [] := by
    rw [← List.length_eq_zero_iff, h.length_cells, Buffer.length, htext]
    rfl
  intro cell hcell
  rw [hcells] at hcell
  exact absurd hcell List.not_mem_nil

theorem Mutated.tinted {mutation : Mutation} {edited : Buffer}
    (hedited : buffer.Mutated mutation edited) (hmutation : mutation.Unstyled)
    (h : buffer.Tinted) : edited.Tinted := by
  have htints : edited.Tints = buffer.Tints := by
    rw [hedited.frame]
    rfl
  intro cell hcell
  rw [htints]
  exact hmutation.keeps buffer.Tints ⟨none, rfl⟩ h cell (hedited.stored hcell)

/-- A pass sets all colors anew. -/
theorem Passed.tinted {runs : RunList} (hpassed : buffer.Passed runs) :
    Tinted { buffer with runs := runs } := by
  intro cell hcell
  obtain ⟨before, -, offset, rfl⟩ := hpassed.stored cell hcell
  refine ⟨buffer.roles.layerAt? buffer.text offset, ?_⟩
  rw [AttributeSet.get?_assign, if_pos rfl]
  rfl

/-- The end of a transaction keeps the colors of the palette. -/
theorem exists_endEditing_tinted (h : buffer.Consistent) (htinted : buffer.Tinted)
    (hdepth : buffer.depth ≠ 0) :
    ∃ after notice, buffer.endEditing = .ok (after, notice) ∧ after.Tinted ∧
      after.palette = buffer.palette := by
  obtain ⟨depth, hdepth⟩ := Nat.exists_eq_succ_of_ne_zero hdepth
  by_cases hquiet : depth ≠ 0 ∨ buffer.pending.mask = 0
  · exact ⟨_, _, endEditing_quiet hdepth hquiet, htinted, rfl⟩
  · rw [not_or, not_not] at hquiet
    obtain ⟨rfl, hmask⟩ := hquiet
    obtain ⟨runs, hend, hpassed⟩ := exists_endEditing_outermost h hdepth hmask
    exact ⟨_, _, hend, hpassed.tinted, rfl⟩

/-- An edit that brings no colors succeeds, and leaves no other ones. -/
theorem exists_mutate_tinted {mutation : Mutation} (h : buffer.Consistent)
    (htinted : buffer.Tinted) (hfits : mutation.Fits buffer.length)
    (hmutation : mutation.Unstyled) :
    ∃ after notice, buffer.mutate mutation = .ok (after, notice) ∧ after.Tinted ∧
      after.palette = buffer.palette := by
  obtain ⟨edited, hmutate, hedited⟩ := exists_mutate h hfits
  have hopen : edited.depth ≠ 0 := by
    rw [hedited.frame]
    exact Nat.succ_ne_zero _
  obtain ⟨after, notice, hend, hafter, hpalette⟩ :=
    exists_endEditing_tinted hedited.consistent (hedited.tinted hmutation htinted) hopen
  refine ⟨after, notice, hmutate.trans hend, hafter, ?_⟩
  rw [hpalette, hedited.frame]

end MarkupEditor.Buffer
