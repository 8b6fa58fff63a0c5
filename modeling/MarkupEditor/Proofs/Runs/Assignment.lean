import MarkupEditor.Proofs.Runs.Slice

/-!
# Assigning one attribute everywhere

An assignment regroups the characters of every run by the values they are given.
A group carries its first value, and the other values of the group are alike to
it, so every character gets what was asked for up to alikeness.
-/

namespace MarkupEditor.RunList

/-- The cells that groups of values make of one attribute set. -/
def cellsOfGroups (attributes : AttributeSet) (name : String)
    (groups : List (Option Value × Nat)) : List AttributeSet :=
  groups.flatMap fun group => List.replicate group.2 (attributes.assign name group.1)

theorem cellsOf_assignRuns (attributes : AttributeSet) (name : String) (start : Int)
    (groups : List (Option Value × Nat)) :
    cellsOf (assignRuns attributes name start groups) = cellsOfGroups attributes name groups := by
  induction groups generalizing start with
  | nil => rfl
  | cons group rest ih =>
      rw [assignRuns, cellsOf_cons, ih, Int.toNat_natCast]
      rfl

theorem nonneg_assignRuns (attributes : AttributeSet) (name : String) (start : Int)
    (groups : List (Option Value × Nat)) :
    ∀ run ∈ assignRuns attributes name start groups, 0 ≤ run.length := by
  induction groups generalizing start with
  | nil => simp [assignRuns]
  | cons group rest ih =>
      intro run hrun
      rw [assignRuns, List.mem_cons] at hrun
      rcases hrun with rfl | hrun
      · exact Int.natCast_nonneg _
      · exact ih _ run hrun

/-- A group that has begun takes in what follows as long as it is alike. -/
theorem cellsOfGroups_groupOnto (attributes : AttributeSet) (name : String)
    (value : Option Value) (count : Nat) (values : List (Option Value)) :
    AlikeCells (cellsOfGroups attributes name (Value.groupOnto value count values))
      (List.replicate count (attributes.assign name value)
        ++ values.map (attributes.assign name)) := by
  induction values generalizing value count with
  | nil => exact AlikeCells.refl _
  | cons next rest ih =>
      rw [Value.groupOnto, List.map_cons]
      split
      · next halike =>
        apply (ih value (count + 1)).trans
        rw [List.replicate_succ', List.append_assoc, List.singleton_append]
        exact (AlikeCells.refl _).append
          (.cons (attributes.assign_alike name halike) (AlikeCells.refl _))
      · exact (AlikeCells.refl _).append (ih next 1)

theorem cellsOfGroups_groups (attributes : AttributeSet) (name : String)
    (values : List (Option Value)) :
    AlikeCells (cellsOfGroups attributes name (Value.groups values))
      (values.map (attributes.assign name)) := by
  cases values with
  | nil => exact AlikeCells.refl _
  | cons value rest => exact cellsOfGroups_groupOnto attributes name value 1 rest

theorem valuesOf_toArray (values : List (Option Value)) {run : Run} (hstart : 0 ≤ run.start)
    (hlength : 0 ≤ run.length) :
    valuesOf values.toArray run = (values.drop run.start.toNat).take run.length.toNat := by
  have hstop : position values.toArray.size run.stop = run.start.toNat + run.length.toNat := by
    have hsum : 0 ≤ run.stop := Int.add_nonneg hstart hlength
    rw [position, if_neg (by omega), Run.stop, Int.toNat_add hstart hlength]
  rw [valuesOf, hstop, position, if_neg (by omega), Array.toList_extract]
  simp

/-- The runs that an assignment makes of the runs of a list. -/
def assigned (name : String) (values : List (Option Value)) (runs : List Run) : List Run :=
  runs.flatMap fun run =>
    assignRuns run.attributes name run.start (Value.groups (valuesOf values.toArray run))

theorem nonneg_assigned (name : String) (values : List (Option Value)) (runs : List Run) :
    ∀ run ∈ assigned name values runs, 0 ≤ run.length := by
  intro run hrun
  obtain ⟨source, -, hmem⟩ := List.mem_flatMap.1 hrun
  exact nonneg_assignRuns _ _ _ _ run hmem

theorem zipWith_assign_replicate (attributes : AttributeSet) (name : String)
    (values : List (Option Value)) :
    List.zipWith (fun attributes value => attributes.assign name value)
        (List.replicate values.length attributes) values =
      values.map (attributes.assign name) := by
  induction values with
  | nil => rfl
  | cons value rest ih =>
      rw [List.length_cons, List.replicate_succ, List.zipWith_cons_cons, ih, List.map_cons]

/-- The induction is on the runs; the values still to be used are those from the
start of the first run on. -/
theorem zipWith_assign_cellsOf (name : String) (values : List (Option Value)) {start : Nat}
    {runs : List Run} (h : LaidOut start runs values.length)
    (hruns : ∀ run ∈ runs, 0 < run.length) :
    List.zipWith (fun attributes value => attributes.assign name value) (cellsOf runs)
        (values.drop start) =
      runs.flatMap fun run => (valuesOf values.toArray run).map (run.attributes.assign name) := by
  induction runs generalizing start with
  | nil => rfl
  | cons run rest ih =>
      obtain ⟨hstart, hrest⟩ := h
      have hlength : 0 < run.length := hruns run (List.mem_cons_self ..)
      have hbehind : ∀ other ∈ rest, 0 < other.length :=
        fun other hother => hruns other (List.mem_cons_of_mem _ hother)
      have hstop : run.stop = ((start + run.length.toNat : Nat) : Int) := by
        simp only [Run.stop]
        omega
      rw [hstop] at hrest
      have hle := le_of_laidOut hrest hbehind
      have hvalues := valuesOf_toArray values (by omega) (Int.le_of_lt hlength)
      rw [hstart, Int.toNat_natCast] at hvalues
      have hcount : (valuesOf values.toArray run).length = run.length.toNat := by
        rw [hvalues, List.length_take, List.length_drop]
        omega
      have hsplit : values.drop start = valuesOf values.toArray run
          ++ values.drop (start + run.length.toNat) := by
        rw [hvalues, ← List.drop_drop, List.take_append_drop]
      rw [List.flatMap_cons, cellsOf_cons, hsplit,
        List.zipWith_append (by rw [List.length_replicate, hcount]), ← hcount,
        zipWith_assign_replicate, hcount, ih hrest hbehind]

theorem cellsOf_assigned (name : String) (values : List (Option Value)) (runs : List Run) :
    cellsOf (assigned name values runs) = runs.flatMap fun run =>
      cellsOfGroups run.attributes name (Value.groups (valuesOf values.toArray run)) := by
  induction runs with
  | nil => rfl
  | cons run rest ih =>
      rw [List.flatMap_cons, ← ih, assigned, List.flatMap_cons, cellsOf_append, cellsOf_assignRuns]
      rfl

theorem alikeCells_assigned (name : String) (values : List (Option Value)) (runs : List Run) :
    AlikeCells (cellsOf (assigned name values runs))
      (runs.flatMap fun run => (valuesOf values.toArray run).map (run.attributes.assign name)) := by
  rw [cellsOf_assigned]
  induction runs with
  | nil => exact AlikeCells.refl _
  | cons run rest ih => exact (cellsOfGroups_groups _ _ _).append ih

end MarkupEditor.RunList
