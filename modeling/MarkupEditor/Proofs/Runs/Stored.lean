import MarkupEditor.Proofs.Runs.Refinement

/-!
# What a run list stores

Alikeness leaves open which of several alike attribute sets a run carries.  Each
is one that an operation gave to a character of the run: joining picks, but it
makes nothing up.
-/

namespace MarkupEditor.RunList

open Operation

theorem mem_cellsOf {cell : AttributeSet} {runs : List Run} :
    cell ∈ cellsOf runs ↔ ∃ run ∈ runs, 0 < run.length ∧ run.attributes = cell := by
  rw [cellsOf, List.mem_flatMap]
  refine exists_congr fun run => and_congr_right fun _ => ?_
  rw [List.mem_replicate, eq_comm, Ne, Int.toNat_eq_zero, Int.not_le]

/-! ### Joining and grouping -/

/-- Of two joined neighbours the left one's attribute set stays. -/
theorem mem_cellsOf_joinOnto {current : Run} {runs : List Run}
    (hruns : ∀ run ∈ runs, 0 ≤ run.length) {cell : AttributeSet}
    (h : cell ∈ cellsOf (joinOnto current runs)) :
    cell = current.attributes ∨ cell ∈ cellsOf runs := by
  induction runs generalizing current with
  | nil =>
      rw [joinOnto, cellsOf_cons, cellsOf_nil, List.append_nil] at h
      exact .inl (List.eq_of_mem_replicate h)
  | cons run rest ih =>
      have hrest : ∀ other ∈ rest, 0 ≤ other.length :=
        fun other hother => hruns other (List.mem_cons_of_mem _ hother)
      have hbehind {current : Run} (h : cell ∈ cellsOf (joinOnto current rest)) :
          cell = current.attributes ∨ cell ∈ cellsOf (run :: rest) := by
        rw [cellsOf_cons]
        exact (ih hrest h).imp_right (List.mem_append_right _)
      rw [joinOnto] at h
      split at h
      · exact hbehind h
      · next hlength =>
        split at h
        · have hmerged := hbehind h
          exact hmerged
        · rw [cellsOf_cons] at h
          rcases List.mem_append.1 h with hcurrent | hjoined
          · exact .inl (List.eq_of_mem_replicate hcurrent)
          · rcases hbehind hjoined with hrun | hlater
            · have hrun' := hruns run (List.mem_cons_self ..)
              exact .inr (mem_cellsOf.2 ⟨run, List.mem_cons_self .., by omega, hrun.symm⟩)
            · exact .inr hlater

theorem cellsOf_join_subset {runs : List Run} (hruns : ∀ run ∈ runs, 0 ≤ run.length) :
    cellsOf (join runs) ⊆ cellsOf runs := by
  induction runs with
  | nil => exact List.Subset.refl _
  | cons run rest ih =>
      have hrest : ∀ other ∈ rest, 0 ≤ other.length :=
        fun other hother => hruns other (List.mem_cons_of_mem _ hother)
      intro cell hcell
      rw [join] at hcell
      split at hcell
      · rw [cellsOf_cons]
        exact List.mem_append_right _ (ih hrest hcell)
      · rcases mem_cellsOf_joinOnto hrest hcell with hrun | hlater
        · have hrun' := hruns run (List.mem_cons_self ..)
          exact mem_cellsOf.2 ⟨run, List.mem_cons_self .., by omega, hrun.symm⟩
        · rw [cellsOf_cons]
          exact List.mem_append_right _ hlater

/-- A group is known by its first value, which is one that was asked for. -/
theorem mem_cellsOfGroups_groupOnto {attributes : AttributeSet} {name : String}
    {value : Option Value} {count : Nat} {values : List (Option Value)} {cell : AttributeSet}
    (h : cell ∈ cellsOfGroups attributes name (Value.groupOnto value count values)) :
    cell = attributes.assign name value ∨ cell ∈ values.map (attributes.assign name) := by
  induction values generalizing value count with
  | nil =>
      rw [Value.groupOnto, cellsOfGroups, List.flatMap_singleton] at h
      exact .inl (List.eq_of_mem_replicate h)
  | cons next rest ih =>
      rw [Value.groupOnto] at h
      rw [List.map_cons, List.mem_cons]
      split at h
      · exact (ih h).imp_right .inr
      · rw [cellsOfGroups, List.flatMap_cons] at h
        rcases List.mem_append.1 h with hvalue | hlater
        · exact .inl (List.eq_of_mem_replicate hvalue)
        · exact .inr (ih hlater)

theorem cellsOfGroups_groups_subset (attributes : AttributeSet) (name : String)
    (values : List (Option Value)) :
    cellsOfGroups attributes name (Value.groups values) ⊆ values.map (attributes.assign name) := by
  cases values with
  | nil => exact List.Subset.refl _
  | cons value rest =>
      intro cell hcell
      rw [List.map_cons, List.mem_cons]
      exact mem_cellsOfGroups_groupOnto hcell

theorem cellsOf_assigned_subset (name : String) (values : List (Option Value)) (runs : List Run) :
    cellsOf (assigned name values runs) ⊆
      runs.flatMap fun run => (valuesOf values.toArray run).map (run.attributes.assign name) := by
  rw [cellsOf_assigned]
  intro cell hcell
  obtain ⟨run, hrun, hgroup⟩ := List.mem_flatMap.1 hcell
  exact List.mem_flatMap.2 ⟨run, hrun, cellsOfGroups_groups_subset _ _ _ hgroup⟩

/-! ### Operations -/

theorem cells_splice_subset {list split : RunList} {span : Span} {first last : Nat}
    (hparts : Slices list span split first last) {change : List Run → List Run}
    {onPart : List AttributeSet → List AttributeSet} {newLength : Nat}
    (hacts : ActsAs change span.length onPart newLength) (length : Int) :
    (ofRuns (splice split.runs first last change) length).cells ⊆
      onSpan list.cells span onPart := by
  have hpart : ∀ run ∈ (split.runs.drop first).take (last - first), 0 < run.length :=
    fun run hrun => hparts.wellFormed.nonempty run
      (List.mem_of_mem_drop (List.mem_of_mem_take hrun))
  have hcells : cellsOf (splice split.runs first last change) =
      onSpan list.cells span onPart := by
    rw [hparts.cellsOf_splice, hacts.cells hparts.length_inside, hparts.cellsOf_inside, onSpan]
  rw [← hcells]
  exact cellsOf_join_subset (hparts.nonneg_splice (hacts.nonneg hpart))

theorem cells_modifyWithin_subset {list changed : RunList} (h : list.Canonical) {span : Span}
    (hspan : (span.stop : Int) ≤ list.length) {change : List Run → List Run}
    {onPart : List AttributeSet → List AttributeSet}
    (hacts : ActsAs change span.length onPart span.length)
    (hchanged : list.modifyWithin span change = .ok changed) :
    changed.cells ⊆ onSpan list.cells span onPart := by
  rw [modifyWithin, Span.within_eq_pure hspan, leaving_pure, pure_bind] at hchanged
  split at hchanged
  · next hempty =>
    cases hchanged
    have hpart : (onPart []).length = 0 := (hacts.length (by simp [hempty])).trans hempty
    rw [onSpan_empty hempty hpart]
    exact List.Subset.refl _
  · obtain ⟨split, first, last, hslice, hparts⟩ := slices_slice h.toWellFormed hspan
    rw [modify, hslice] at hchanged
    cases hchanged
    exact cells_splice_subset hparts hacts _

/-- Every attribute set that an operation leaves is one that it gave to a character. -/
theorem cells_subset_of_apply {list changed : RunList} (h : list.Canonical)
    {operation : Operation} (happly : operation.apply list = .ok changed) :
    changed.cells ⊆ operation.onCells list.cells := by
  have hfits := (represents_of_apply h happly).1
  cases operation with
  | replace span newLength attributes =>
      obtain ⟨split, first, last, hslice, hparts⟩ := slices_slice h.toWellFormed hfits
      rw [Operation.apply, replace, Span.within_eq_pure hfits, leaving_pure, pure_bind,
        hslice] at happly
      cases happly
      exact cells_splice_subset hparts (actsAs_single span.start span.length newLength _) _
  | setAttributes span attributes =>
      exact cells_modifyWithin_subset h hfits (actsAs_uniform span.start span.length _) happly
  | addAttribute name value span =>
      exact cells_modifyWithin_subset h hfits (actsAs_map (·.insert name value) span.length) happly
  | removeAttribute name span =>
      exact cells_modifyWithin_subset h hfits (actsAs_map (·.erase name) span.length) happly
  | assignAttribute name values =>
      have hvalues : (values.length : Int) = list.length := hfits
      have hlaid : LaidOut ((0 : Nat) : Int) list.runs values.length := hvalues ▸ h.laidOut
      rw [Operation.apply, assignAttribute, if_pos hvalues] at happly
      cases happly
      have hcells := zipWith_assign_cellsOf name values hlaid h.nonempty
      rw [List.drop_zero] at hcells
      rw [onCells, cells, cells, hcells]
      exact List.Subset.trans (cellsOf_join_subset (nonneg_assigned name values list.runs))
        (cellsOf_assigned_subset name values list.runs)
  | attributesAt offset =>
      rw [Operation.apply] at happly
      cases hfound : list.attributesAt offset with
      | error failure =>
          rw [hfound] at happly
          cases happly
      | ok found =>
          rw [hfound] at happly
          cases happly
          exact List.Subset.refl _
  | runs =>
      cases happly
      exact List.Subset.refl _

/-- A run's attribute set is the one of its characters. -/
theorem attributes_mem_cells {list : RunList} (h : list.WellFormed) {run : Run}
    (hrun : run ∈ list.runs) : run.attributes ∈ list.cells :=
  mem_cellsOf.2 ⟨run, hrun, h.nonempty run hrun, rfl⟩

end MarkupEditor.RunList
