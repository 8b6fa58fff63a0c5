import MarkupEditor.Proofs.Runs.Refinement
import MarkupEditor.Proofs.Markup.Bounds

/-!
# Layers of values on a run list

Values that are added under one name span by span cover each other.  What they
leave is what one assignment of the values that show in the end would leave,
look-up by look-up.
-/

namespace MarkupEditor.RunList

open Operation

/-! ### All characters at once -/

theorem alikeCells_map {edit edit' : AttributeSet → AttributeSet}
    {left right : List AttributeSet} (h : AlikeCells left right)
    (hedit : ∀ {cell cell' : AttributeSet}, cell.Alike cell' → (edit cell).Alike (edit' cell')) :
    AlikeCells (left.map edit) (right.map edit') :=
  List.rel_map (fun _ _ halike => hedit halike) h

theorem onSpan_whole (cells : List AttributeSet)
    (onPart : List AttributeSet → List AttributeSet) :
    onSpan cells (.whole cells.length) onPart = onPart cells := by
  simp [onSpan, Span.whole, Span.stop]

/-- Assigning one value to all characters. -/
theorem Represents.assign_whole {list : RunList} {cells : List AttributeSet}
    (h : list.Represents cells) {length : Nat} (hlength : list.length = length) (name : String)
    (value : Option Value) :
    ∃ changed, list.modifyWithin (.whole length)
        (List.map fun run => { run with attributes := run.attributes.assign name value }) =
          .ok changed ∧
      changed.Represents (cells.map (·.assign name value)) := by
  have hspan : ((Span.whole length).stop : Int) ≤ list.length := by
    apply Int.le_of_eq
    rw [hlength, Span.stop, Span.whole, Nat.zero_add]
  have hcells : list.cells.length = length := by
    have hcount := h.canonical.toWellFormed.length_cells
    omega
  obtain ⟨changed, hchanged, hrepresents⟩ :=
    represents_modifyWithin h.canonical hspan (actsAs_map (·.assign name value) length)
  rw [← hcells, onSpan_whole] at hrepresents
  have halike : AlikeCells (list.cells.map (·.assign name value))
      (cells.map (·.assign name value)) :=
    alikeCells_map h.alike fun hcell => hcell.assign name value
  exact ⟨changed, hchanged, hrepresents.canonical, hrepresents.alike.trans halike⟩

/-! ### Look-ups -/

theorem alikeCells_iff_getElem? {left right : List AttributeSet} :
    AlikeCells left right ↔
      ∀ index : Nat, Option.Rel AttributeSet.Alike left[index]? right[index]? := by
  constructor
  · intro h
    induction h with
    | nil =>
        intro index
        exact .none
    | cons halike _ ih =>
        intro index
        cases index with
        | zero => exact .some halike
        | succ index => exact ih index
  · intro h
    induction left generalizing right with
    | nil =>
        cases right with
        | nil => exact .nil
        | cons cell rest => cases h 0
    | cons cell rest ih =>
        cases right with
        | nil => cases h 0
        | cons cell' rest' =>
            cases h 0 with
            | some halike => exact .cons halike (ih fun index => h (index + 1))

theorem getElem?_onSpan_map {cells : List AttributeSet} {span : Span}
    (hspan : span.stop ≤ cells.length) (edit : AttributeSet → AttributeSet) (index : Nat) :
    (onSpan cells span (List.map edit))[index]? =
      if span.start ≤ index ∧ index < span.stop then cells[index]?.map edit
      else cells[index]? := by
  have hstop : span.stop = span.start + span.length := rfl
  have hbefore : (cells.take span.start).length = span.start := by
    rw [List.length_take]
    omega
  have hpart : ((cells.drop span.start).take span.length).length = span.length := by
    rw [List.length_take, List.length_drop]
    omega
  rw [onSpan, List.append_assoc, List.getElem?_append, hbefore]
  by_cases hleft : index < span.start
  · rw [if_pos hleft, if_neg (by omega), List.getElem?_take_of_lt hleft]
  · rw [if_neg hleft, List.getElem?_append, List.length_map, hpart]
    by_cases hright : index - span.start < span.length
    · rw [if_pos hright, if_pos (by omega), List.getElem?_map, List.getElem?_take_of_lt hright,
        List.getElem?_drop, Nat.add_sub_of_le (by omega)]
    · rw [if_neg hright, if_neg (by omega), List.getElem?_drop]
      congr 1
      omega

/-! ### Laying down layers -/

/-- Cells that carry the values shown under one name. -/
def shownOver (name : String) (cells : List AttributeSet) (shown : List (Option Value)) :
    List AttributeSet :=
  List.zipWith (fun attributes value => attributes.assign name value) cells shown

theorem alikeCells_shownOver {left right : List AttributeSet} (h : AlikeCells left right)
    (name : String) (shown : List (Option Value)) :
    AlikeCells (shownOver name left shown) (shownOver name right shown) := by
  induction h generalizing shown with
  | nil => exact .nil
  | cons halike _ ih =>
      cases shown with
      | nil => exact .nil
      | cons value rest => exact .cons (halike.assign name value) (ih rest)

theorem shownOver_replicate_none (name : String) (cells : List AttributeSet) :
    shownOver name cells (List.replicate cells.length none) = cells.map (·.erase name) := by
  induction cells with
  | nil => rfl
  | cons cell rest ih =>
      rw [List.length_cons, List.replicate_succ, shownOver, List.zipWith_cons_cons, List.map_cons]
      exact congrArg _ ih

/-- Where nothing shows yet, taking a name away comes to the same before and after
another name gets its value. -/
theorem alikeCells_shownOver_none (cells : List AttributeSet) {name other : String}
    (hname : name ≠ other) (value : Value) :
    AlikeCells ((cells.map (·.erase other)).map (·.insert name value))
      (shownOver other (cells.map (·.insert name value)) (List.replicate cells.length none)) := by
  rw [← List.length_map (·.insert name value), shownOver_replicate_none, List.map_map,
    List.map_map]
  apply alikeCells_map (AlikeCells.refl cells)
  intro cell cell' hcell
  exact ((hcell.assign other none).assign name (some value)).trans
    (AttributeSet.assign_comm_alike cell' hname (some value) none)

/-- Adding a value over a span is laying it over what has been shown so far. -/
theorem alikeCells_onSpan_insert {name : String} {painted base : List AttributeSet}
    {shown : Array (Option Value)} (h : AlikeCells painted (shownOver name base shown.toList))
    {span : Span} (hspan : span.stop ≤ painted.length) (value : Value) :
    AlikeCells (onSpan painted span (List.map (·.insert name value)))
      (shownOver name base (overlay shown span value).toList) := by
  have hshown : span.stop ≤ shown.size := by
    have hlength := h.length_eq
    rw [shownOver, List.length_zipWith] at hlength
    exact Nat.le_trans hspan (hlength ▸ Nat.min_le_right ..)
  rw [alikeCells_iff_getElem?] at h ⊢
  intro index
  have hcell := h index
  rw [shownOver, List.getElem?_zipWith'] at hcell ⊢
  rw [getElem?_onSpan_map hspan, getElem?_toList_overlay hshown]
  by_cases hin : span.start ≤ index ∧ index < span.stop
  · have hlt : index < shown.toList.length := Nat.lt_of_lt_of_le hin.2 hshown
    rw [if_pos hin, if_pos hin]
    rw [List.getElem?_eq_getElem hlt] at hcell
    generalize painted[index]? = cell at hcell ⊢
    cases hbase : base[index]? with
    | none =>
        rw [hbase] at hcell
        cases hcell
        exact .none
    | some attributes =>
        rw [hbase] at hcell
        cases hcell with
        | some halike => exact .some ((halike.assign name (some value)).trans
            (AttributeSet.assign_assign_alike attributes name _ (some value)))
  · rw [if_neg hin, if_neg hin]
    exact hcell

/-- The induction is on the marks still to be laid down, over all that has been
shown so far. -/
theorem exists_foldlM_addAttribute {α : Type} (name : String) (mark : α → Value)
    {base : List AttributeSet} {items : List (Span × α)} {list : RunList}
    {shown : Array (Option Value)} (h : list.Represents (shownOver name base shown.toList))
    (hitems : ∀ item ∈ items, (item.1.stop : Int) ≤ list.length) :
    ∃ painted,
      items.foldlM (fun runs item => runs.addAttribute name (mark item.2) item.1) list =
        .ok painted ∧
      painted.Represents (shownOver name base
        (items.foldl (fun cells item => overlay cells item.1 (mark item.2)) shown).toList) := by
  induction items generalizing list shown with
  | nil => exact ⟨list, rfl, h⟩
  | cons item rest ih =>
      have hfits : (Operation.addAttribute name (mark item.2) item.1).Fits list.length :=
        hitems item (List.mem_cons_self ..)
      have hcells := h.canonical.toWellFormed.length_cells
      have hspan : item.1.stop ≤ list.cells.length := Int.ofNat_le.1 (hcells ▸ hfits)
      obtain ⟨painted, happly, hrepresents⟩ := represents_apply h.canonical hfits
      have hlength : painted.length = list.length + 0 := length_of_apply h.canonical happly
      have hpainted : painted.Represents
          (shownOver name base (overlay shown item.1 (mark item.2)).toList) :=
        ⟨hrepresents.canonical,
          hrepresents.alike.trans (alikeCells_onSpan_insert h.alike hspan _)⟩
      obtain ⟨last, hlast, hfinal⟩ := ih hpainted fun other hother => by
        rw [hlength, Int.add_zero]
        exact hitems other (List.mem_cons_of_mem _ hother)
      refine ⟨last, ?_, hfinal⟩
      rw [List.foldlM_cons]
      change (Operation.addAttribute name (mark item.2) item.1).apply list >>= _ = _
      rw [happly]
      exact hlast

end MarkupEditor.RunList
