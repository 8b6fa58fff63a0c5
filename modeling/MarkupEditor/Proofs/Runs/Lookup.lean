import MarkupEditor.Proofs.Runs.Slice

/-!
# Looking up the run of a character

In a well-formed run list each character is held by one run.  The search by halving finds
it, whichever of its characters is asked for, and it is the run that styles the character.
-/

namespace MarkupEditor.RunList

variable {list : RunList} {offset : Int} {left right left' right' : List Run} {run run' : Run}

/-- Among the runs of a list, the one between two parts of them holds an offset. -/
structure HeldBy (list : RunList) (offset : Int) (left : List Run) (run : Run)
    (right : List Run) : Prop where
  runs : list.runs = left ++ run :: right
  start_le : run.start ≤ offset
  lt_stop : offset < run.stop

theorem exists_heldBy (h : list.WellFormed) (hle : 0 ≤ offset) (hlt : offset < list.length) :
    ∃ left run right, HeldBy list offset left run right := by
  obtain ⟨left, run, right, hruns, hfirst, hlast, -⟩ := exists_run_indexAt h hle hlt
  exact ⟨left, run, right, hruns, hfirst, hlast⟩

namespace HeldBy

theorem length_pos (h : list.WellFormed) (hheld : HeldBy list offset left run right) :
    0 < run.length :=
  h.nonempty run (hheld.runs ▸ List.mem_append_right left List.mem_cons_self)

/-- The runs before the one that holds an offset style the characters before it. -/
theorem length_cellsOf_left (h : list.WellFormed) (hheld : HeldBy list offset left run right) :
    ((cellsOf left).length : Int) = run.start := by
  obtain ⟨middle, hleft, hmiddle, -⟩ := laidOut_append.1 (hheld.runs ▸ h.laidOut)
  have hnonneg : ∀ other ∈ left, 0 ≤ other.length := fun other hother =>
    h.nonneg other (hheld.runs ▸ List.mem_append_left _ hother)
  rw [length_cellsOf hnonneg, hmiddle, ← total_of_laidOut hleft, Int.zero_add]

theorem stop_le_length (h : list.WellFormed) (hheld : HeldBy list offset left run right) :
    run.stop ≤ list.length := by
  obtain ⟨middle, -, -, hright⟩ := laidOut_append.1 (hheld.runs ▸ h.laidOut)
  exact le_of_laidOut hright fun other hother =>
    h.nonempty other (hheld.runs ▸ List.mem_append_right left (List.mem_cons_of_mem run hother))

/-- The run that holds an offset styles the character there. -/
theorem getElem?_cells (h : list.WellFormed) (hheld : HeldBy list offset left run right) :
    list.cells[offset.toNat]? = some run.attributes := by
  have hstart := hheld.length_cellsOf_left h
  have hfirst := hheld.start_le
  have hlast := hheld.lt_stop
  simp only [Run.stop] at hlast
  rw [cells, hheld.runs, cellsOf_append, cellsOf_cons, List.getElem?_append_right (by omega),
    List.getElem?_append_left (by simp; omega), List.getElem?_replicate_of_lt (by omega)]

/-- Runs before the one that holds an offset cannot hold it as well. -/
theorem length_left_le (h : list.WellFormed) (hheld : HeldBy list offset left run right)
    (hheld' : HeldBy list offset left' run' right') : left'.length ≤ left.length := by
  obtain ⟨middle, hleft, hstart, -⟩ := laidOut_append.1 (hheld'.runs ▸ h.laidOut)
  have htake : (left ++ run :: right).take left'.length = left' := by
    rw [← hheld.runs, hheld'.runs, List.take_left]
  apply count_le_of_laidOut (hheld.runs ▸ h.nonempty) hheld.lt_stop (htake.symm ▸ hleft)
  exact hstart ▸ hheld'.start_le

/-- The search finds the run that holds the offset. -/
theorem indexAt_eq (h : list.WellFormed) (hheld : HeldBy list offset left run right) :
    list.indexAt offset = left.length := by
  have hle : 0 ≤ offset := by
    have hstart := hheld.length_cellsOf_left h
    have hfirst := hheld.start_le
    omega
  have hlt : offset < list.length := Int.lt_of_lt_of_le hheld.lt_stop (hheld.stop_le_length h)
  obtain ⟨left', run', right', hruns, hfirst, hlast, hindex⟩ := exists_run_indexAt h hle hlt
  have hfound : HeldBy list offset left' run' right' := ⟨hruns, hfirst, hlast⟩
  rw [hindex]
  exact Nat.le_antisymm (hheld.length_left_le h hfound) (hfound.length_left_le h hheld)

/-- All characters that a run holds have the same answer: the run. -/
theorem attributesAt_eq (h : list.WellFormed) (hheld : HeldBy list offset left run right) :
    list.attributesAt offset = run.span.map fun span => (run.attributes, span) := by
  have hstart := hheld.length_cellsOf_left h
  have hstop := hheld.stop_le_length h
  have hfirst := hheld.start_le
  have hlast := hheld.lt_stop
  have hget : list.runs[left.length]? = some run := by
    rw [hheld.runs, List.getElem?_append_right (Nat.le_refl _), Nat.sub_self]
    rfl
  rw [attributesAt, if_neg (by omega), hheld.indexAt_eq h, hget]

/-- A run that holds characters has a span with the same ends. -/
theorem exists_span (h : list.WellFormed) (hheld : HeldBy list offset left run right) :
    ∃ span : Span, run.span = .ok span ∧ (span.start : Int) = run.start ∧
      (span.stop : Int) = run.stop := by
  have hstart := hheld.length_cellsOf_left h
  have hlength := hheld.length_pos h
  refine ⟨⟨run.start.toNat, run.length.toNat⟩, ?_, ?_, ?_⟩
  · rw [Run.span, Span.ofInts, if_neg (by omega)]
  · simp only
    omega
  · simp only [Span.stop, Run.stop]
    omega

end HeldBy

end MarkupEditor.RunList
