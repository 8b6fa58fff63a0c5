import MarkupEditor.Proofs.Runs.Assignment
import MarkupEditor.Proofs.Runs.Lookup

/-!
# Run lists refine lists of attribute sets

A run list stands for the list of the attribute sets of its characters.  Every
operation that fits succeeds, keeps the run list canonical, and does to this list
what its name says; the two sides agree up to alikeness, since of alike
neighbours only one attribute set survives.
-/

namespace MarkupEditor.RunList

open Operation

/-- A canonical run list in which every character has an attribute set alike to
the one that a list gives it. -/
structure Represents (list : RunList) (cells : List AttributeSet) : Prop where
  canonical : list.Canonical
  alike : AlikeCells list.cells cells

theorem Represents.length_eq {list : RunList} {cells : List AttributeSet}
    (h : list.Represents cells) : (cells.length : Int) = list.length := by
  rw [← h.alike.length_eq, h.canonical.toWellFormed.length_cells]

/-- A change of runs that does to the cells of a span of one length what another
function does, and makes cells of another length of them. -/
structure ActsAs (change : List Run → List Run) (length : Nat)
    (onPart : List AttributeSet → List AttributeSet) (newLength : Nat) : Prop where
  nonneg : ∀ {part : List Run}, (∀ run ∈ part, 0 < run.length) →
    ∀ run ∈ change part, 0 ≤ run.length
  cells : ∀ {part : List Run}, (cellsOf part).length = length →
    cellsOf (change part) = onPart (cellsOf part)
  length : ∀ {cells : List AttributeSet}, cells.length = length →
    (onPart cells).length = newLength

theorem actsAs_single (start : Int) (length newLength : Nat) (attributes : AttributeSet) :
    ActsAs (fun _ => [⟨start, newLength, attributes⟩]) length
      (fun _ => List.replicate newLength attributes) newLength where
  nonneg _ := by
    intro run hrun
    rw [List.mem_singleton.1 hrun]
    exact Int.natCast_nonneg _
  cells _ := by
    rw [cellsOf_cons, cellsOf_nil, List.append_nil, Int.toNat_natCast]
  length _ := List.length_replicate

theorem actsAs_uniform (start : Int) (length : Nat) (attributes : AttributeSet) :
    ActsAs (fun _ => [⟨start, length, attributes⟩]) length (List.map fun _ => attributes)
      length where
  nonneg := (actsAs_single start length length attributes).nonneg
  cells hpart := by
    rw [(actsAs_single start length length attributes).cells hpart, List.map_const', hpart]
  length hcells := by rw [List.length_map, hcells]

theorem cellsOf_map (edit : AttributeSet → AttributeSet) (runs : List Run) :
    cellsOf (runs.map fun run => { run with attributes := edit run.attributes }) =
      (cellsOf runs).map edit := by
  induction runs with
  | nil => rfl
  | cons run rest ih =>
      rw [List.map_cons, cellsOf_cons, cellsOf_cons, ih, List.map_append, List.map_replicate]

theorem actsAs_map (edit : AttributeSet → AttributeSet) (length : Nat) :
    ActsAs (List.map fun run => { run with attributes := edit run.attributes }) length
      (List.map edit) length where
  nonneg hpart := by
    intro run hrun
    obtain ⟨source, hsource, rfl⟩ := List.mem_map.1 hrun
    exact Int.le_of_lt (hpart source hsource)
  cells _ := cellsOf_map edit _
  length hcells := by rw [List.length_map, hcells]

/-- Splitting at both ends of a span, changing the runs in between and joining. -/
theorem represents_splice {list : RunList} (h : list.WellFormed) {span : Span}
    (hspan : (span.stop : Int) ≤ list.length) {change : List Run → List Run}
    {onPart : List AttributeSet → List AttributeSet} {newLength : Nat}
    (hacts : ActsAs change span.length onPart newLength) :
    ∃ split first last, list.slice span = .ok (split, first, last) ∧
      Represents (ofRuns (splice split.runs first last change)
        (list.length + newLength - span.length)) (onSpan list.cells span onPart) := by
  obtain ⟨split, first, last, hslice, hparts⟩ := slices_slice h hspan
  have hpart : ∀ run ∈ (split.runs.drop first).take (last - first), 0 < run.length :=
    fun run hrun => hparts.wellFormed.nonempty run
      (List.mem_of_mem_drop (List.mem_of_mem_take hrun))
  have hnonneg := hacts.nonneg hpart
  have hcells := hacts.cells hparts.length_inside
  have htotal := length_cellsOf hnonneg
  rw [hcells, hacts.length hparts.length_inside] at htotal
  refine ⟨split, first, last, hslice, ?_, ?_⟩
  · apply canonical_ofRuns (hparts.nonneg_splice hnonneg)
    rw [hparts.total_splice, htotal]
  · apply (cells_ofRuns (hparts.nonneg_splice hnonneg) _).trans
    rw [hparts.cellsOf_splice, hcells, hparts.cellsOf_inside]
    exact AlikeCells.refl _

theorem onSpan_empty {cells : List AttributeSet} {span : Span} (hspan : span.length = 0)
    {onPart : List AttributeSet → List AttributeSet} (hpart : (onPart []).length = 0) :
    onSpan cells span onPart = cells := by
  rw [onSpan, Span.stop, hspan, List.take_zero, List.eq_nil_of_length_eq_zero hpart,
    List.append_nil, Nat.add_zero, List.take_append_drop]

theorem represents_modifyWithin {list : RunList} (h : list.Canonical) {span : Span}
    (hspan : (span.stop : Int) ≤ list.length) {change : List Run → List Run}
    {onPart : List AttributeSet → List AttributeSet}
    (hacts : ActsAs change span.length onPart span.length) :
    ∃ changed, list.modifyWithin span change = .ok changed ∧
      changed.Represents (onSpan list.cells span onPart) := by
  rw [modifyWithin, Span.within_eq_pure hspan, leaving_pure, pure_bind]
  by_cases hempty : span.length = 0
  · have hpart : (onPart []).length = 0 := (hacts.length (by simp [hempty])).trans hempty
    rw [if_pos hempty, onSpan_empty hempty hpart]
    exact ⟨list, rfl, h, AlikeCells.refl _⟩
  · obtain ⟨split, first, last, hslice, hrepresents⟩ :=
      represents_splice h.toWellFormed hspan hacts
    rw [Int.add_sub_cancel] at hrepresents
    rw [if_neg hempty, modify, hslice]
    exact ⟨_, rfl, hrepresents⟩

theorem represents_replace {list : RunList} (h : list.Canonical) {span : Span}
    (hspan : (span.stop : Int) ≤ list.length) (newLength : Nat) (attributes : AttributeSet) :
    ∃ changed, list.replace span newLength attributes = .ok changed ∧
      changed.Represents
        (onSpan list.cells span fun _ => List.replicate newLength attributes) := by
  obtain ⟨split, first, last, hslice, hrepresents⟩ := represents_splice h.toWellFormed hspan
    (actsAs_single span.start span.length newLength attributes)
  rw [replace, Span.within_eq_pure hspan, leaving_pure, pure_bind, hslice]
  exact ⟨_, rfl, hrepresents⟩

theorem represents_assignAttribute {list : RunList} (h : list.Canonical) (name : String)
    {values : List (Option Value)} (hvalues : (values.length : Int) = list.length) :
    ∃ changed, list.assignAttribute name values = .ok changed ∧
      changed.Represents (List.zipWith (fun attributes value => attributes.assign name value)
        list.cells values) := by
  have hlaid : LaidOut ((0 : Nat) : Int) list.runs values.length := hvalues ▸ h.laidOut
  have hcells := alikeCells_assigned name values list.runs
  rw [← zipWith_assign_cellsOf name values hlaid h.nonempty] at hcells
  have hnonneg := nonneg_assigned name values list.runs
  have hlength := h.toWellFormed.length_cells
  have htotal : total (assigned name values list.runs) = list.length := by
    rw [← length_cellsOf hnonneg, hcells.length_eq, List.length_zipWith]
    change ((min list.cells.length values.length : Nat) : Int) = list.length
    omega
  rw [assignAttribute, if_pos hvalues]
  exact ⟨_, rfl, canonical_ofRuns hnonneg htotal, (cells_ofRuns hnonneg _).trans hcells⟩

/-- A look-up succeeds at every character, and answers with the attribute set
that is stored for it. -/
theorem exists_attributesAt {list : RunList} (h : list.WellFormed) {offset : Nat}
    (hlt : (offset : Int) < list.length) :
    ∃ attributes span, list.attributesAt offset = .ok (attributes, span) ∧
      list.cells[offset]? = some attributes := by
  obtain ⟨left, run, right, hheld⟩ := exists_heldBy h (Int.natCast_nonneg offset) hlt
  obtain ⟨span, hspan, -, -⟩ := hheld.exists_span h
  refine ⟨run.attributes, span, ?_, hheld.getElem?_cells h⟩
  rw [hheld.attributesAt_eq h, hspan]
  rfl

/-- What fits succeeds, and does to the cells what it should. -/
theorem represents_apply {list : RunList} (h : list.Canonical) {operation : Operation}
    (hfits : operation.Fits list.length) :
    ∃ changed, operation.apply list = .ok changed ∧
      changed.Represents (operation.onCells list.cells) := by
  cases operation with
  | replace span newLength attributes =>
      exact represents_replace h hfits newLength (attributes.getD ∅)
  | setAttributes span attributes =>
      exact represents_modifyWithin h hfits (actsAs_uniform span.start span.length _)
  | addAttribute name value span =>
      exact represents_modifyWithin h hfits (actsAs_map (·.insert name value) span.length)
  | removeAttribute name span =>
      exact represents_modifyWithin h hfits (actsAs_map (·.erase name) span.length)
  | assignAttribute name values =>
      exact represents_assignAttribute h name hfits
  | attributesAt offset =>
      obtain ⟨index, rfl⟩ := Int.eq_ofNat_of_zero_le hfits.1
      obtain ⟨attributes, span, hfound, -⟩ := exists_attributesAt h.toWellFormed hfits.2
      refine ⟨list, ?_, h, AlikeCells.refl _⟩
      rw [Operation.apply, hfound]
      rfl
  | runs => exact ⟨list, rfl, h, AlikeCells.refl _⟩

theorem modifyWithin_eq_error {list : RunList} {span : Span}
    (hspan : ¬ (span.stop : Int) ≤ list.length) (change : List Run → List Run) :
    ∃ failure, list.modifyWithin span change = .error ⟨failure, list⟩ := by
  rw [modifyWithin, Span.within_eq_error hspan]
  exact ⟨_, rfl⟩

/-- What does not fit is refused before anything is changed. -/
theorem apply_eq_error {list : RunList} {operation : Operation}
    (hfits : ¬ operation.Fits list.length) :
    ∃ failure, operation.apply list = .error ⟨failure, list⟩ := by
  cases operation with
  | replace span newLength attributes =>
      rw [Operation.apply, replace, Span.within_eq_error hfits]
      exact ⟨_, rfl⟩
  | setAttributes span attributes => exact modifyWithin_eq_error hfits _
  | addAttribute name value span => exact modifyWithin_eq_error hfits _
  | removeAttribute name span => exact modifyWithin_eq_error hfits _
  | assignAttribute name values =>
      have hvalues : ¬ (values.length : Int) = list.length := hfits
      rw [Operation.apply, assignAttribute, if_neg hvalues]
      exact ⟨_, rfl⟩
  | attributesAt offset =>
      have hout : offset < 0 ∨ list.length ≤ offset := by
        simp only [Fits] at hfits
        omega
      rw [Operation.apply, attributesAt, if_pos hout]
      exact ⟨_, rfl⟩
  | runs => exact absurd trivial hfits

/-- What has succeeded did fit. -/
theorem represents_of_apply {list changed : RunList} (h : list.Canonical)
    {operation : Operation} (happly : operation.apply list = .ok changed) :
    operation.Fits list.length ∧ changed.Represents (operation.onCells list.cells) := by
  by_cases hfits : operation.Fits list.length
  · obtain ⟨found, hfound, hrepresents⟩ := represents_apply h hfits
    obtain rfl : found = changed := by
      rw [hfound] at happly
      exact Except.ok.inj happly
    exact ⟨hfits, hrepresents⟩
  · obtain ⟨failure, hfailure⟩ := apply_eq_error hfits
    rw [hfailure] at happly
    cases happly

/-- By how much an operation changes the number of characters. -/
def Operation.growth : Operation → Int
  | .replace span newLength _ => newLength - span.length
  | _ => 0

theorem length_onSpan {cells : List AttributeSet} {span : Span} (hspan : span.stop ≤ cells.length)
    {onPart : List AttributeSet → List AttributeSet} {newLength : Nat}
    (hpart : ∀ part : List AttributeSet, part.length = span.length →
      (onPart part).length = newLength) :
    ((onSpan cells span onPart).length : Int) = cells.length + (newLength - span.length) := by
  simp only [Span.stop] at hspan
  have hlength : ((cells.drop span.start).take span.length).length = span.length := by
    rw [List.length_take, List.length_drop]
    omega
  rw [onSpan, List.length_append, List.length_append, hpart _ hlength, List.length_take,
    List.length_drop, Span.stop]
  omega

theorem length_onCells {cells : List AttributeSet} {operation : Operation}
    (hfits : operation.Fits cells.length) :
    ((operation.onCells cells).length : Int) = cells.length + operation.growth := by
  have hmap (span : Span) (edit : AttributeSet → AttributeSet) (hspan : span.stop ≤ cells.length) :
      ((onSpan cells span (List.map edit)).length : Int) = cells.length + 0 := by
    rw [length_onSpan hspan fun part hpart => (List.length_map ..).trans hpart, Int.sub_self]
  cases operation with
  | replace span newLength attributes =>
      exact length_onSpan (Int.ofNat_le.1 hfits) fun _ _ => List.length_replicate
  | setAttributes span attributes => exact hmap span _ (Int.ofNat_le.1 hfits)
  | addAttribute name value span => exact hmap span _ (Int.ofNat_le.1 hfits)
  | removeAttribute name span => exact hmap span _ (Int.ofNat_le.1 hfits)
  | assignAttribute name values =>
      have hvalues : values.length = cells.length := Int.ofNat_inj.1 hfits
      rw [onCells, List.length_zipWith, hvalues, Nat.min_self]
      exact (Int.add_zero _).symm
  | attributesAt offset => exact (Int.add_zero _).symm
  | runs => exact (Int.add_zero _).symm

/-- An operation changes the number of characters by its growth. -/
theorem length_of_apply {list changed : RunList} (h : list.Canonical) {operation : Operation}
    (happly : operation.apply list = .ok changed) :
    changed.length = list.length + operation.growth := by
  obtain ⟨hfits, hrepresents⟩ := represents_of_apply h happly
  have hcells := h.toWellFormed.length_cells
  rw [← hcells] at hfits
  rw [← hrepresents.length_eq, length_onCells hfits, hcells]

/-- What does not grow has as many characters afterwards, be it refused or not. -/
theorem length_after {list : RunList} (h : list.Canonical) (operation : Operation)
    (hgrowth : operation.growth = 0) : (operation.after list).length = list.length := by
  rw [after]
  by_cases hfits : operation.Fits list.length
  · obtain ⟨changed, happly, -⟩ := represents_apply h hfits
    rw [happly]
    exact (length_of_apply h happly).trans (hgrowth ▸ Int.add_zero _)
  · obtain ⟨failure, happly⟩ := apply_eq_error hfits
    rw [happly]
    rfl

theorem canonical_empty : (∅ : RunList).Canonical where
  laidOut := rfl
  nonempty := by
    intro run hrun
    exact absurd hrun List.not_mem_nil
  starts := rfl
  apart := trivial

theorem canonical_after {list : RunList} (h : list.Canonical) (operation : Operation) :
    (operation.after list).Canonical := by
  rw [after]
  by_cases hfits : operation.Fits list.length
  · obtain ⟨changed, happly, hrepresents⟩ := represents_apply h hfits
    rw [happly]
    exact hrepresents.canonical
  · obtain ⟨failure, happly⟩ := apply_eq_error hfits
    rw [happly]
    exact h

end MarkupEditor.RunList
