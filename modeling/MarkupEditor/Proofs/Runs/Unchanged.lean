import MarkupEditor.Proofs.Runs.Stored
import MarkupEditor.Proofs.Runs.Uniqueness

/-!
# Operations that find everything done

An operation that gives every character the attribute set it has already leaves the run
list as it is: not only alike runs, but the same ones, with the same attribute sets stored
in them.  Splitting and joining cannot be seen then.
-/

namespace MarkupEditor

namespace AttributeSet

/-- A name that is given the value it has. -/
theorem insert_eq_self {attributes : AttributeSet} {name : String} {value : Value}
    (h : attributes.get? name = some value) : attributes.insert name value = attributes := by
  have (entries : List (String × Value)) (h : entries.lookup name = some value) :
      insertEntry name value entries = entries := by
    induction entries with
    | nil => cases h
    | cons entry rest ih =>
        obtain ⟨key, stored⟩ := entry
        rw [lookup_cons_eq] at h
        rw [insertEntry]
        by_cases hkey : key = name
        · rw [if_pos hkey.symm] at h
          rw [if_pos hkey, Option.some.inj h, hkey]
        · rw [if_neg (Ne.symm hkey)] at h
          rw [if_neg hkey, ih h]
  exact congrArg AttributeSet.mk (this attributes.entries h)

/-- A name that has no value, with its value taken away. -/
theorem erase_eq_self {attributes : AttributeSet} {name : String}
    (h : attributes.get? name = none) : attributes.erase name = attributes := by
  have (entries : List (String × Value)) (h : entries.lookup name = none) :
      (entries.filter fun entry => entry.1 != name) = entries := by
    apply List.filter_eq_self.2
    intro entry hentry
    have hkey : name != entry.1 := List.lookup_eq_none_iff.1 h entry hentry
    exact bne_iff_ne.2 (bne_iff_ne.1 hkey).symm
  exact congrArg AttributeSet.mk (this attributes.entries h)

theorem assign_eq_self {attributes : AttributeSet} {name : String} {value : Option Value}
    (h : attributes.get? name = value) : attributes.assign name value = attributes := by
  cases value with
  | none => exact erase_eq_self h
  | some value => exact insert_eq_self h

end AttributeSet

namespace RunList

open Operation

/-! ### Where joined runs begin -/

/-- A joined run is the first one, or it begins with a cell of the runs behind and has its
attribute set. -/
theorem cell_of_mem_joinOnto {current : Run} {runs : List Run}
    (hruns : ∀ run ∈ runs, 0 ≤ run.length) {run : Run} (h : run ∈ joinOnto current runs) :
    (run.start = current.start ∧ run.attributes = current.attributes) ∨
      ∃ place : Nat, run.start = current.stop + place ∧
        (cellsOf runs)[place]? = some run.attributes := by
  induction runs generalizing current with
  | nil =>
      rw [joinOnto, List.mem_singleton] at h
      exact .inl ⟨congrArg Run.start h, congrArg Run.attributes h⟩
  | cons next rest ih =>
      have hnext : 0 ≤ next.length := hruns next List.mem_cons_self
      have hrest : ∀ other ∈ rest, 0 ≤ other.length :=
        fun other hother => hruns other (List.mem_cons_of_mem _ hother)
      have hbehind {place : Nat} (hcell : (cellsOf rest)[place]? = some run.attributes) :
          (cellsOf (next :: rest))[next.length.toNat + place]? = some run.attributes := by
        rw [cellsOf_cons, List.getElem?_append_right (by simp), List.length_replicate,
          Nat.add_sub_cancel_left]
        exact hcell
      rw [joinOnto] at h
      split at h
      · next hzero =>
        rcases ih hrest h with hfirst | ⟨place, hstart, hcell⟩
        · exact .inl hfirst
        · refine .inr ⟨next.length.toNat + place, ?_, hbehind hcell⟩
          omega
      · next hsome =>
        split at h
        · rcases ih hrest h with hfirst | ⟨place, hstart, hcell⟩
          · exact .inl hfirst
          · refine .inr ⟨next.length.toNat + place, ?_, hbehind hcell⟩
            simp only [Run.stop] at hstart ⊢
            omega
        · rcases List.mem_cons.1 h with rfl | h
          · exact .inl ⟨rfl, rfl⟩
          · rcases ih hrest h with ⟨hstart, hattributes⟩ | ⟨place, hstart, hcell⟩
            · refine .inr ⟨0, by simpa using hstart, ?_⟩
              rw [cellsOf_cons, List.getElem?_append_left (by simp; omega),
                List.getElem?_replicate_of_lt (by omega), hattributes]
            · refine .inr ⟨next.length.toNat + place, ?_, hbehind hcell⟩
              simp only [Run.stop] at hstart ⊢
              omega

/-- A joined run has the attribute set of its first cell. -/
theorem cell_of_mem_join {runs : List Run} (hruns : ∀ run ∈ runs, 0 ≤ run.length) {run : Run}
    (h : run ∈ join runs) : (cellsOf runs)[run.start.toNat]? = some run.attributes := by
  induction runs with
  | nil => cases h
  | cons next rest ih =>
      have hnext : 0 ≤ next.length := hruns next List.mem_cons_self
      have hrest : ∀ other ∈ rest, 0 ≤ other.length :=
        fun other hother => hruns other (List.mem_cons_of_mem _ hother)
      rw [join] at h
      rw [cellsOf_cons]
      split at h
      · next hzero =>
        rw [hzero]
        exact ih hrest h
      · rcases cell_of_mem_joinOnto hrest h with ⟨hstart, hattributes⟩ | ⟨place, hstart, hcell⟩
        · rw [hstart, hattributes, List.getElem?_append_left (by simp; omega)]
          exact List.getElem?_replicate_of_lt (by simp; omega)
        · have hplace : run.start.toNat = next.length.toNat + place := by
            simp only [Run.stop] at hstart
            omega
          rw [hplace, List.getElem?_append_right (by simp), List.length_replicate,
            Nat.add_sub_cancel_left]
          exact hcell

/-- A run has the attribute set of its first cell. -/
theorem cell_of_mem_runs {list : RunList} (h : list.WellFormed) {run : Run}
    (hrun : run ∈ list.runs) : list.cells[run.start.toNat]? = some run.attributes := by
  obtain ⟨left, right, hruns⟩ := List.append_of_mem hrun
  obtain ⟨middle, hleft, hmiddle, -⟩ := laidOut_append.1 (hruns ▸ h.laidOut)
  have hnonneg : ∀ other ∈ left, 0 ≤ other.length :=
    fun other hother => h.nonneg other (hruns ▸ List.mem_append_left _ hother)
  have htotal := total_of_laidOut hleft
  have hlength := length_cellsOf hnonneg
  have hsome := h.nonempty run hrun
  have hstart : run.start.toNat = (cellsOf left).length := by omega
  rw [cells, hruns, cellsOf_append, cellsOf_cons, hstart, List.getElem?_append_right (by simp),
    Nat.sub_self, List.getElem?_append_left (by simp; omega),
    List.getElem?_replicate_of_lt (by omega)]

/-- Runs with the very cells of a canonical run list are joined to its runs. -/
theorem ofRuns_eq {list : RunList} (h : list.Canonical) {runs : List Run}
    (hruns : ∀ run ∈ runs, 0 ≤ run.length) (hcells : cellsOf runs = list.cells) :
    ofRuns runs list.length = list := by
  have htotal : total runs = list.length := by
    rw [← length_cellsOf hruns, hcells, h.toWellFormed.length_cells]
  have hjoined := canonical_ofRuns hruns htotal
  have hsame : AlikeCells (ofRuns runs list.length).cells list.cells :=
    hcells ▸ cells_ofRuns hruns list.length
  have halike : AlikeRuns (ofRuns runs list.length).runs list.runs :=
    Represents.alikeRuns ⟨hjoined, hsame⟩ ⟨h, AlikeCells.refl _⟩
  apply hjoined.toWellFormed.eq_of_runs_eq h.toWellFormed
  apply halike.eq
  intro run hrun run' hrun' hplace
  have hcell := cell_of_mem_join hruns hrun
  have hcell' := cell_of_mem_runs h.toWellFormed hrun'
  rw [hcells, hplace.start, hcell'] at hcell
  exact (Option.some.inj hcell).symm

/-! ### Changes that change nothing -/

/-- A change of a span whose cells stay what they are. -/
theorem modifyWithin_eq_self {list : RunList} (h : list.Canonical) {span : Span}
    (hspan : (span.stop : Int) ≤ list.length) {change : List Run → List Run}
    {onPart : List AttributeSet → List AttributeSet}
    (hacts : ActsAs change span.length onPart span.length)
    (hsame : onSpan list.cells span onPart = list.cells) :
    list.modifyWithin span change = .ok list := by
  rw [modifyWithin, Span.within_eq_pure hspan, leaving_pure, pure_bind]
  split
  · rfl
  · obtain ⟨split, first, last, hslice, hparts⟩ := slices_slice h.toWellFormed hspan
    have hpart : ∀ run ∈ (split.runs.drop first).take (last - first), 0 < run.length :=
      fun run hrun => hparts.wellFormed.nonempty run
        (List.mem_of_mem_drop (List.mem_of_mem_take hrun))
    have hcells : cellsOf (splice split.runs first last change) = list.cells := by
      rw [hparts.cellsOf_splice, hacts.cells hparts.length_inside, hparts.cellsOf_inside]
      exact hsame
    rw [modify, hslice]
    exact congrArg Except.ok (ofRuns_eq h (hparts.nonneg_splice (hacts.nonneg hpart)) hcells)

/-- Every character of a run is given a value. -/
theorem length_valuesOf {list : RunList} (h : list.WellFormed) {values : List (Option Value)}
    (hvalues : (values.length : Int) = list.length) {run : Run} (hrun : run ∈ list.runs) :
    (valuesOf values.toArray run).length = run.length.toNat := by
  obtain ⟨left, right, hruns⟩ := List.append_of_mem hrun
  obtain ⟨middle, hleft, hmiddle, hright⟩ := laidOut_append.1 (hruns ▸ h.laidOut)
  have hbefore : 0 ≤ middle := le_of_laidOut hleft fun other hother =>
    h.nonempty other (hruns ▸ List.mem_append_left _ hother)
  have hbehind : run.stop ≤ list.length := le_of_laidOut hright fun other hother =>
    h.nonempty other (hruns ▸ List.mem_append_right _ (List.mem_cons_of_mem _ hother))
  have hlength : 0 < run.length := h.nonempty run hrun
  simp only [Run.stop] at hbehind
  rw [valuesOf_toArray values (by omega) (Int.le_of_lt hlength), List.length_take,
    List.length_drop]
  omega

theorem cellsOfGroups_eq_replicate {attributes : AttributeSet} {name : String}
    {values : List (Option Value)}
    (h : ∀ value ∈ values, attributes.assign name value = attributes) :
    cellsOfGroups attributes name (Value.groups values) =
      List.replicate values.length attributes := by
  rw [List.eq_replicate_iff]
  constructor
  · rw [(cellsOfGroups_groups attributes name values).length_eq, List.length_map]
  · intro cell hcell
    obtain ⟨value, hvalue, rfl⟩ := List.mem_map.1 (cellsOfGroups_groups_subset _ _ _ hcell)
    exact h value hvalue

/-- Parts of equal lengths can be told apart in what they make together. -/
theorem eq_of_flatMap_eq {α β : Type} {left right : α → List β} {items : List α}
    (hlength : ∀ item ∈ items, (left item).length = (right item).length)
    (h : items.flatMap left = items.flatMap right) : ∀ item ∈ items, left item = right item := by
  induction items with
  | nil => exact fun _ hitem => absurd hitem List.not_mem_nil
  | cons first rest ih =>
      rw [List.flatMap_cons, List.flatMap_cons] at h
      obtain ⟨hfirst, hrest⟩ := List.append_inj h (hlength first List.mem_cons_self)
      intro item hitem
      rcases List.mem_cons.1 hitem with rfl | hitem
      · exact hfirst
      · exact ih (fun other hother => hlength other (List.mem_cons_of_mem _ hother)) hrest item
          hitem

/-- An assignment of the values that the characters have. -/
theorem assignAttribute_eq_self {list : RunList} (h : list.Canonical) {name : String}
    {values : List (Option Value)} (hvalues : (values.length : Int) = list.length)
    (hsame : List.zipWith (fun attributes value => attributes.assign name value)
      list.cells values = list.cells) :
    list.assignAttribute name values = .ok list := by
  have hlaid : LaidOut ((0 : Nat) : Int) list.runs values.length := hvalues ▸ h.laidOut
  have hparts := zipWith_assign_cellsOf name values hlaid h.nonempty
  rw [List.drop_zero] at hparts
  have hruns : ∀ run ∈ list.runs, (valuesOf values.toArray run).map (run.attributes.assign name) =
      List.replicate run.length.toNat run.attributes := by
    apply eq_of_flatMap_eq
    · intro run hrun
      rw [List.length_map, length_valuesOf h.toWellFormed hvalues hrun, List.length_replicate]
    · exact hparts.symm.trans hsame
  have hcells : cellsOf (assigned name values list.runs) = list.cells := by
    rw [cellsOf_assigned, cells, cellsOf]
    apply List.flatMap_congr
    intro run hrun
    rw [cellsOfGroups_eq_replicate, length_valuesOf h.toWellFormed hvalues hrun]
    intro value hvalue
    have hcell := List.mem_map_of_mem (f := run.attributes.assign name) hvalue
    rw [hruns run hrun] at hcell
    exact List.eq_of_mem_replicate hcell
  rw [assignAttribute, if_pos hvalues]
  exact congrArg Except.ok (ofRuns_eq h (nonneg_assigned name values list.runs) hcells)

end RunList

end MarkupEditor
