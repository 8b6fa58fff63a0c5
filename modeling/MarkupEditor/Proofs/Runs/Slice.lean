import MarkupEditor.Runs.Lemmas

/-!
# Slices of a run list

Splitting at both ends of a span leaves a run list in three parts, the middle
one of which covers exactly the span.  Whatever the middle part is changed into,
joining gives a canonical run list again, and it says about the characters on
both sides of the span what the old one said.
-/

namespace MarkupEditor.RunList

theorem laidOut_unique {start stop stop' : Int} {runs : List Run}
    (h : LaidOut start runs stop) (h' : LaidOut start runs stop') : stop = stop' := by
  rw [← total_of_laidOut h, total_of_laidOut h']

theorem eq_nil_of_laidOut {start stop : Int} {runs : List Run}
    (h : LaidOut start runs stop) (hruns : ∀ run ∈ runs, 0 < run.length)
    (hstop : stop ≤ start) : runs = [] := by
  cases runs with
  | nil => rfl
  | cons run rest =>
      obtain ⟨hstart, hrest⟩ := h
      have hrun : 0 < run.length := hruns run (List.mem_cons_self ..)
      have hle : run.stop ≤ stop :=
        le_of_laidOut hrest fun other hother => hruns other (List.mem_cons_of_mem _ hother)
      simp only [Run.stop] at hle
      omega

/-- Of two positions in a list of runs, the one where less has been covered
comes first. -/
theorem position_le_of_laidOut {start stop stop' : Int} {runs : List Run} {first last : Nat}
    (hruns : ∀ run ∈ runs, 0 < run.length) (hfirst : first ≤ runs.length)
    (h : LaidOut start (runs.take first) stop) (h' : LaidOut start (runs.take last) stop')
    (hstop : stop ≤ stop') : first ≤ last := by
  by_contra hlast
  obtain ⟨more, rfl⟩ : ∃ more, first = last + (more + 1) := ⟨first - last - 1, by omega⟩
  rw [List.take_add] at h
  obtain ⟨middle, hleft, hright⟩ := laidOut_append.1 h
  have hmiddle : middle = stop' := laidOut_unique hleft h'
  have hnil := eq_nil_of_laidOut hright
    (fun run hrun => hruns run (List.mem_of_mem_drop (List.mem_of_mem_take hrun))) (by omega)
  have hlength := congrArg List.length hnil
  simp only [List.length_take, List.length_drop, List.length_nil] at hlength
  omega

/-- The three parts of a run list that is split at both ends of a span. -/
structure Slices (list : RunList) (span : Span) (split : RunList) (first last : Nat) : Prop where
  length : split.length = list.length
  wellFormed : split.WellFormed
  cells : split.cells = list.cells
  first_le : first ≤ last
  last_le : last ≤ split.runs.length
  before : LaidOut 0 (split.runs.take first) span.start
  inside : LaidOut span.start ((split.runs.drop first).take (last - first)) span.stop
  behind : LaidOut span.stop (split.runs.drop last) list.length

theorem slices_slice {list : RunList} (h : list.WellFormed) {span : Span}
    (hspan : (span.stop : Int) ≤ list.length) :
    ∃ split first last, list.slice span = .ok (split, first, last) ∧
      Slices list span split first last := by
  have hle : (span.start : Int) ≤ span.stop := by
    simp only [Span.stop]
    omega
  obtain ⟨atStart, first, hfirst, hstart⟩ := splitsAt_splitAt h (Int.le_trans hle hspan)
  obtain ⟨atStop, last, hlast, hstop⟩ :=
    splitsAt_splitAt hstart.wellFormed (hstart.length ▸ hspan)
  have hkeeps := hstop.keeps hstart.before hle
  have hbefore : LaidOut 0 (atStop.runs.take first) span.start := hkeeps ▸ hstart.before
  have hcount : first ≤ atStop.runs.length := by
    have hlength := congrArg List.length hkeeps
    have hindex := hstart.index_le
    simp only [List.length_take] at hlength
    omega
  have horder : first ≤ last :=
    position_le_of_laidOut hstop.wellFormed.nonempty hcount hbefore hstop.before hle
  refine ⟨atStop, first, last, ?_, ?_⟩
  · rw [slice, hfirst]
    change (atStart.splitAt span.stop >>= fun found => pure (found.1, first, found.2)) = _
    rw [hlast]
    rfl
  · refine ⟨hstop.length.trans hstart.length, hstop.wellFormed, hstop.cells.trans hstart.cells,
      horder, hstop.index_le, hbefore, ?_, hstart.length ▸ hstop.behind⟩
    have htake : LaidOut 0 (atStop.runs.take (first + (last - first))) span.stop := by
      rw [Nat.add_sub_cancel' horder]
      exact hstop.before
    rw [List.take_add] at htake
    obtain ⟨middle, hleft, hright⟩ := laidOut_append.1 htake
    rwa [laidOut_unique hleft hbefore] at hright

namespace WellFormed

variable {list : RunList}

theorem nonneg (h : list.WellFormed) : ∀ run ∈ list.runs, 0 ≤ run.length :=
  fun run hrun => Int.le_of_lt (h.nonempty run hrun)

theorem length_cells (h : list.WellFormed) : (list.cells.length : Int) = list.length := by
  rw [cells, length_cellsOf h.nonneg, ← total_of_laidOut h.laidOut, Int.zero_add]

end WellFormed

namespace Slices

variable {list split : RunList} {span : Span} {first last : Nat}

theorem runs_eq (h : Slices list span split first last) :
    split.runs = split.runs.take first ++ (split.runs.drop first).take (last - first)
      ++ split.runs.drop last := by
  have hlast : split.runs.take last =
      split.runs.take first ++ (split.runs.drop first).take (last - first) := by
    rw [← List.take_add, Nat.add_sub_cancel' h.first_le]
  rw [← hlast, List.take_append_drop]

theorem length_before (h : Slices list span split first last) :
    (cellsOf (split.runs.take first)).length = span.start := by
  have hruns : ∀ run ∈ split.runs.take first, 0 ≤ run.length :=
    fun run hrun => h.wellFormed.nonneg run (List.mem_of_mem_take hrun)
  have hlength := length_cellsOf hruns
  have htotal := total_of_laidOut h.before
  omega

theorem length_inside (h : Slices list span split first last) :
    (cellsOf ((split.runs.drop first).take (last - first))).length = span.length := by
  have hruns : ∀ run ∈ (split.runs.drop first).take (last - first), 0 ≤ run.length :=
    fun run hrun => h.wellFormed.nonneg run (List.mem_of_mem_drop (List.mem_of_mem_take hrun))
  have hlength := length_cellsOf hruns
  have htotal := total_of_laidOut h.inside
  simp only [Span.stop] at htotal
  omega

theorem cells_eq (h : Slices list span split first last) :
    list.cells = cellsOf (split.runs.take first)
      ++ cellsOf ((split.runs.drop first).take (last - first))
      ++ cellsOf (split.runs.drop last) := by
  rw [← cellsOf_append, ← cellsOf_append, ← h.runs_eq]
  exact h.cells.symm

theorem cellsOf_before (h : Slices list span split first last) :
    cellsOf (split.runs.take first) = list.cells.take span.start := by
  rw [h.cells_eq, List.append_assoc, List.take_left' h.length_before]

theorem cellsOf_inside (h : Slices list span split first last) :
    cellsOf ((split.runs.drop first).take (last - first)) =
      (list.cells.drop span.start).take span.length := by
  rw [h.cells_eq, List.append_assoc, List.drop_left' h.length_before,
    List.take_left' h.length_inside]

theorem cellsOf_behind (h : Slices list span split first last) :
    cellsOf (split.runs.drop last) = list.cells.drop span.stop := by
  rw [h.cells_eq, List.drop_left']
  rw [List.length_append, h.length_before, h.length_inside, Span.stop]

/-- No run lies inside of the span exactly if the span is empty. -/
theorem first_eq_last_iff (h : Slices list span split first last) :
    first = last ↔ span.length = 0 := by
  constructor
  · rintro rfl
    have hlength := h.length_inside
    rw [Nat.sub_self] at hlength
    exact hlength.symm
  · intro hempty
    have hstop : (span.stop : Int) ≤ span.start := by
      rw [Span.stop, hempty]
      exact Int.le_refl _
    have hnil := eq_nil_of_laidOut h.inside
      (fun run hrun => h.wellFormed.nonempty run (List.mem_of_mem_drop (List.mem_of_mem_take hrun)))
      hstop
    have hcount := congrArg List.length hnil
    rw [List.length_take, List.length_drop, List.length_nil] at hcount
    have hfirst := h.first_le
    have hlast := h.last_le
    omega

theorem splice_eq (h : Slices list span split first last) (change : List Run → List Run) :
    splice split.runs first last change =
      split.runs.take first ++ change ((split.runs.drop first).take (last - first))
        ++ split.runs.drop last := by
  rw [splice, Nat.max_eq_right h.first_le]

theorem nonneg_splice (h : Slices list span split first last) {change : List Run → List Run}
    (hchange : ∀ run ∈ change ((split.runs.drop first).take (last - first)), 0 ≤ run.length) :
    ∀ run ∈ splice split.runs first last change, 0 ≤ run.length := by
  intro run hrun
  rw [h.splice_eq, List.mem_append, List.mem_append] at hrun
  rcases hrun with (hbefore | hinside) | hbehind
  · exact h.wellFormed.nonneg run (List.mem_of_mem_take hbefore)
  · exact hchange run hinside
  · exact h.wellFormed.nonneg run (List.mem_of_mem_drop hbehind)

theorem total_splice (h : Slices list span split first last) (change : List Run → List Run) :
    total (splice split.runs first last change) = list.length
      + total (change ((split.runs.drop first).take (last - first))) - span.length := by
  have hbefore := total_of_laidOut h.before
  have hbehind := total_of_laidOut h.behind
  simp only [Span.stop] at hbehind
  rw [h.splice_eq, total_append, total_append]
  omega

theorem cellsOf_splice (h : Slices list span split first last)
    (change : List Run → List Run) :
    cellsOf (splice split.runs first last change) =
      list.cells.take span.start
        ++ cellsOf (change ((split.runs.drop first).take (last - first)))
        ++ list.cells.drop span.stop := by
  rw [h.splice_eq, cellsOf_append, cellsOf_append, h.cellsOf_before, h.cellsOf_behind]

end Slices

/-- Slicing at a span that ends inside the text gives the runs before it, those of the span
and those behind it.  What the characters have does not change, and there are no runs of
the span exactly if it is empty. -/
theorem exists_slice_parts {list : RunList} (h : list.WellFormed) {span : Span}
    (hspan : (span.stop : Int) ≤ list.length) :
    ∃ split first last, list.slice span = .ok (split, first, last) ∧
      Slices list span split first last ∧ (first = last ↔ span.length = 0) := by
  obtain ⟨split, first, last, hslice, hslices⟩ := slices_slice h hspan
  exact ⟨split, first, last, hslice, hslices, hslices.first_eq_last_iff⟩

/-- Six characters, the last two of them with an attribute. -/
def halfStyled : RunList :=
  ⟨[⟨0, 4, ∅⟩, ⟨4, 2, AttributeSet.insert ∅ "a" .null⟩], [0, 4], 6⟩

theorem exists_slice_parts_halfStyled :
    halfStyled.WellFormed ∧ ((Span.mk 1 2).stop : Int) ≤ halfStyled.length ∧
      ∃ split, halfStyled.slice ⟨1, 2⟩ = .ok (split, 1, 2) ∧
        Slices halfStyled ⟨1, 2⟩ split 1 2 := by
  have h : halfStyled.WellFormed := by
    refine ⟨⟨rfl, rfl, rfl⟩, ?_, rfl⟩
    intro run hrun
    rcases List.mem_cons.1 hrun with rfl | hrun
    · decide
    · obtain rfl := List.mem_singleton.1 hrun
      decide
  have hspan : ((Span.mk 1 2).stop : Int) ≤ halfStyled.length := by
    decide
  obtain ⟨split, first, last, hslice, hslices, -⟩ := exists_slice_parts h hspan
  have hplaces : (halfStyled.slice ⟨1, 2⟩).toOption.map Prod.snd = some (1, 2) := by
    decide +kernel
  rw [hslice] at hplaces
  obtain ⟨rfl, rfl⟩ := Prod.mk.inj (Option.some.inj hplaces)
  exact ⟨h, hspan, split, hslice, hslices⟩

end MarkupEditor.RunList
