import MarkupEditor.Proofs.Runs.Refinement

/-!
# The runs of a styling

Runs that lie end to end from the same offset, none of them empty and no two
neighbours alike, are determined by the cells they make, up to alikeness of
their attribute sets.  How a styling was reached cannot be seen from its runs.
-/

namespace MarkupEditor

/-- Runs of the same characters with alike attribute sets. -/
structure Run.Alike (left right : Run) : Prop where
  start : left.start = right.start
  length : left.length = right.length
  attributes : left.attributes.Alike right.attributes

namespace RunList

abbrev AlikeRuns : List Run → List Run → Prop := List.Forall₂ Run.Alike

theorem head_alike {left right : List Run} {run run' : Run} (hrun : 0 < run.length)
    (hrun' : 0 < run'.length)
    (hcells : AlikeCells (cellsOf (run :: left)) (cellsOf (run' :: right))) :
    run.attributes.Alike run'.attributes := by
  obtain ⟨count, hcount⟩ : ∃ count, run.length.toNat = count + 1 :=
    ⟨run.length.toNat - 1, by omega⟩
  obtain ⟨count', hcount'⟩ : ∃ count', run'.length.toNat = count' + 1 :=
    ⟨run'.length.toNat - 1, by omega⟩
  rw [cellsOf_cons, cellsOf_cons, hcount, hcount', List.replicate_succ, List.replicate_succ,
    List.cons_append, List.cons_append] at hcells
  exact (List.forall₂_cons.1 hcells).1

/-- A first run cannot reach beyond the first run on the other side: the cell
behind that one is not alike to it. -/
theorem length_le_of_alikeCells {left right : List Run} {run run' : Run}
    (hrun : 0 < run.length) (hruns' : ∀ other ∈ run' :: right, 0 < other.length)
    (hapart : Apart (run' :: right))
    (hcells : AlikeCells (cellsOf (run :: left)) (cellsOf (run' :: right))) :
    run.length ≤ run'.length := by
  have hrun' : 0 < run'.length := hruns' run' (List.mem_cons_self ..)
  by_contra hlt
  have hbehind := List.forall₂_drop run'.length.toNat hcells
  rw [cellsOf_cons, cellsOf_cons, List.drop_append_of_le_length (by simp; omega),
    List.drop_replicate, List.drop_left' (List.length_replicate ..)] at hbehind
  obtain ⟨more, hmore⟩ : ∃ more, run.length.toNat - run'.length.toNat = more + 1 :=
    ⟨run.length.toNat - run'.length.toNat - 1, by omega⟩
  rw [hmore, List.replicate_succ, List.cons_append] at hbehind
  cases right with
  | nil => cases hbehind
  | cons next rest =>
      have hnext : 0 < next.length := hruns' next (by simp)
      obtain ⟨count, hcount⟩ : ∃ count, next.length.toNat = count + 1 :=
        ⟨next.length.toNat - 1, by omega⟩
      rw [cellsOf_cons, hcount, List.replicate_succ, List.cons_append] at hbehind
      have hhead := head_alike hrun hrun' hcells
      have hsecond := (List.forall₂_cons.1 hbehind).1
      exact hapart.1 (hhead.symm.trans hsecond)

theorem apart_of_cons {run : Run} {rest : List Run} (h : Apart (run :: rest)) : Apart rest := by
  cases rest with
  | nil => trivial
  | cons next rest => exact h.2

/-- The induction is on the runs of one side; the first runs of both sides have
the same length, and what lies behind them makes alike cells again. -/
theorem alikeRuns_of_alikeCells {start stop stop' : Int} {left right : List Run}
    (hleft : LaidOut start left stop) (hright : LaidOut start right stop')
    (hruns : ∀ run ∈ left, 0 < run.length) (hruns' : ∀ run ∈ right, 0 < run.length)
    (hapart : Apart left) (hapart' : Apart right)
    (hcells : AlikeCells (cellsOf left) (cellsOf right)) : AlikeRuns left right := by
  induction left generalizing start right with
  | nil =>
      have hlength := hcells.length_eq
      have htotal := length_cellsOf fun run hrun => Int.le_of_lt (hruns' run hrun)
      have hstop := total_of_laidOut hright
      rw [cellsOf_nil, List.length_nil] at hlength
      rw [eq_nil_of_laidOut hright hruns' (by omega)]
      exact .nil
  | cons run rest ih =>
      have hrun : 0 < run.length := hruns run (List.mem_cons_self ..)
      cases right with
      | nil =>
          have hlength := hcells.length_eq
          rw [cellsOf_nil, cellsOf_cons, List.length_append, List.length_replicate,
            List.length_nil] at hlength
          omega
      | cons run' rest' =>
          have hrun' : 0 < run'.length := hruns' run' (List.mem_cons_self ..)
          have hle := length_le_of_alikeCells hrun hruns' hapart' hcells
          have hge := length_le_of_alikeCells hrun' hruns hapart hcells.symm
          have hlength : run.length = run'.length := Int.le_antisymm hle hge
          have hstart : run.start = run'.start := hleft.1.trans hright.1.symm
          have hstop : run.stop = run'.stop := by rw [Run.stop, Run.stop, hstart, hlength]
          have hbehind := List.forall₂_drop run.length.toNat hcells
          rw [cellsOf_cons, cellsOf_cons, List.drop_left' (List.length_replicate ..), hlength,
            List.drop_left' (List.length_replicate ..)] at hbehind
          apply List.Forall₂.cons ⟨hstart, hlength, head_alike hrun hrun' hcells⟩
          exact ih hleft.2 (hstop ▸ hright.2)
            (fun other hother => hruns other (List.mem_cons_of_mem _ hother))
            (fun other hother => hruns' other (List.mem_cons_of_mem _ hother))
            (apart_of_cons hapart) (apart_of_cons hapart') hbehind

/-- Two canonical run lists that say the same have the same runs. -/
theorem Represents.alikeRuns {list list' : RunList} {cells : List AttributeSet}
    (h : list.Represents cells) (h' : list'.Represents cells) :
    AlikeRuns list.runs list'.runs :=
  alikeRuns_of_alikeCells h.canonical.laidOut h'.canonical.laidOut h.canonical.nonempty
    h'.canonical.nonempty h.canonical.apart h'.canonical.apart (h.alike.trans h'.alike.symm)

/-! ### Equal run lists -/

/-- Runs that are alike are the same where alike ones have the same attribute sets. -/
theorem AlikeRuns.eq {left right : List Run} (h : AlikeRuns left right)
    (hexact : ∀ run ∈ left, ∀ run' ∈ right, run.Alike run' →
      run.attributes = run'.attributes) : left = right := by
  induction h with
  | nil => rfl
  | @cons run run' left right halike _ ih =>
      have hattributes := hexact run (List.mem_cons_self ..) run' (List.mem_cons_self ..) halike
      have hrun : run = run' := by
        calc
          run = ⟨run.start, run.length, run.attributes⟩ := rfl
          _ = ⟨run'.start, run'.length, run'.attributes⟩ := by
            rw [halike.start, halike.length, hattributes]
      have hrest : left = right := ih fun run hrun run' hrun' =>
        hexact run (List.mem_cons_of_mem _ hrun) run' (List.mem_cons_of_mem _ hrun')
      rw [hrun, hrest]

/-- The runs determine the starts beside them and the number of characters. -/
theorem WellFormed.eq_of_runs_eq {list list' : RunList} (h : list.WellFormed)
    (h' : list'.WellFormed) (hruns : list.runs = list'.runs) : list = list' := by
  have hstarts : list.starts = list'.starts := by rw [h.starts, h'.starts, hruns]
  have hlength : list.length = list'.length := laidOut_unique (hruns ▸ h.laidOut) h'.laidOut
  calc
    list = ⟨list.runs, list.starts, list.length⟩ := rfl
    _ = ⟨list'.runs, list'.starts, list'.length⟩ := by rw [hruns, hstarts, hlength]

end RunList

end MarkupEditor
