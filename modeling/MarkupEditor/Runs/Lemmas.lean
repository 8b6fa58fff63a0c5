import MarkupEditor.Runs.View

/-!
# Splitting and joining runs

The two halves of every operation on a run list.  Splitting keeps the shape of
the run list and what every character has, and makes a run start where it was
asked to.  Joining lays runs end to end from zero and leaves no alike neighbours;
where no run owes characters, it keeps what every character has up to alikeness.
-/

namespace MarkupEditor.RunList

@[simp]
theorem cellsOf_nil : cellsOf [] = [] := rfl

@[simp]
theorem cellsOf_cons (run : Run) (rest : List Run) :
    cellsOf (run :: rest) = List.replicate run.length.toNat run.attributes ++ cellsOf rest := by
  simp [cellsOf]

@[simp]
theorem cellsOf_append (left right : List Run) :
    cellsOf (left ++ right) = cellsOf left ++ cellsOf right := by
  simp [cellsOf]

theorem AlikeCells.refl (cells : List AttributeSet) : AlikeCells cells cells :=
  List.forall₂_same.2 fun cell _ => AttributeSet.Alike.refl cell

theorem AlikeCells.symm {left right : List AttributeSet} (h : AlikeCells left right) :
    AlikeCells right left :=
  (List.Forall₂.imp (fun _ _ => AttributeSet.Alike.symm) h).flip

theorem AlikeCells.trans {first second third : List AttributeSet}
    (h : AlikeCells first second) (h' : AlikeCells second third) : AlikeCells first third := by
  induction h generalizing third with
  | nil => exact h'
  | cons halike hrest ih =>
    cases h' with
    | cons halike' hrest' => exact .cons (halike.trans halike') (ih hrest')

theorem AlikeCells.append {left left' right right' : List AttributeSet}
    (hleft : AlikeCells left left') (hright : AlikeCells right right') :
    AlikeCells (left ++ right) (left' ++ right') :=
  List.rel_append hleft hright

theorem alikeCells_replicate {attributes attributes' : AttributeSet}
    (h : attributes.Alike attributes') (count : Nat) :
    AlikeCells (List.replicate count attributes) (List.replicate count attributes') := by
  induction count with
  | zero => exact .nil
  | succ count ih => exact .cons h ih

theorem laidOut_append {start stop : Int} {left right : List Run} :
    LaidOut start (left ++ right) stop ↔
      ∃ middle, LaidOut start left middle ∧ LaidOut middle right stop := by
  induction left generalizing start with
  | nil =>
    refine ⟨fun h => ⟨start, rfl, h⟩, ?_⟩
    rintro ⟨middle, rfl, h⟩
    exact h
  | cons run rest ih =>
    constructor
    · rintro ⟨hstart, hrest⟩
      obtain ⟨middle, hleft, hright⟩ := ih.1 hrest
      exact ⟨middle, ⟨hstart, hleft⟩, hright⟩
    · rintro ⟨middle, ⟨hstart, hleft⟩, hright⟩
      exact ⟨hstart, ih.2 ⟨middle, hleft, hright⟩⟩

@[simp]
theorem total_nil : total [] = 0 := rfl

@[simp]
theorem total_cons (run : Run) (rest : List Run) :
    total (run :: rest) = run.length + total rest := rfl

@[simp]
theorem total_append (left right : List Run) :
    total (left ++ right) = total left + total right := by
  induction left with
  | nil => simp
  | cons run rest ih => simp [ih, Int.add_assoc]

theorem total_of_laidOut {start stop : Int} {runs : List Run} (h : LaidOut start runs stop) :
    start + total runs = stop := by
  induction runs generalizing start with
  | nil => simpa [LaidOut] using h
  | cons run rest ih =>
    obtain ⟨hstart, hrest⟩ := h
    have htotal := ih hrest
    simp only [Run.stop] at htotal
    simp only [total_cons]
    omega

theorem length_cellsOf {runs : List Run} (h : ∀ run ∈ runs, 0 ≤ run.length) :
    ((cellsOf runs).length : Int) = total runs := by
  induction runs with
  | nil => rfl
  | cons run rest ih =>
    have hrun := h run (List.mem_cons_self ..)
    have hrest := ih fun other hother => h other (List.mem_cons_of_mem _ hother)
    simp only [cellsOf_cons, List.length_append, List.length_replicate, total_cons]
    omega

/-! ### Joining -/

theorem laidOut_joinOnto (current : Run) (runs : List Run) :
    LaidOut current.start (joinOnto current runs) (current.stop + total runs) := by
  induction runs generalizing current with
  | nil => exact ⟨rfl, by simp [LaidOut]⟩
  | cons run rest ih =>
    rw [joinOnto, total_cons]
    split
    · next hzero =>
      rw [hzero, Int.zero_add]
      exact ih current
    · split
      · have h := ih { current with length := current.length + run.length }
        simp only [Run.stop] at h ⊢
        rwa [show current.start + current.length + (run.length + total rest) =
          current.start + (current.length + run.length) + total rest by omega]
      · have h := ih ⟨current.stop, run.length, run.attributes⟩
        refine ⟨rfl, ?_⟩
        simp only [Run.stop] at h ⊢
        rwa [show current.start + current.length + (run.length + total rest) =
          current.start + current.length + run.length + total rest by omega]

theorem cellsOf_joinOnto (current : Run) (runs : List Run) (h : 0 ≤ current.length)
    (hruns : ∀ run ∈ runs, 0 ≤ run.length) :
    AlikeCells (cellsOf (joinOnto current runs))
      (List.replicate current.length.toNat current.attributes ++ cellsOf runs) := by
  induction runs generalizing current with
  | nil => exact AlikeCells.refl _
  | cons run rest ih =>
    have hrun := hruns run (List.mem_cons_self ..)
    have hrest : ∀ other ∈ rest, 0 ≤ other.length :=
      fun other hother => hruns other (List.mem_cons_of_mem _ hother)
    rw [joinOnto, cellsOf_cons]
    split
    · next hzero => simpa [hzero] using ih current h hrest
    · split
      · next halike =>
        refine (ih _ (by simp only; omega) hrest).trans ?_
        rw [show (current.length + run.length).toNat = current.length.toNat + run.length.toNat by
          omega, ← List.replicate_append_replicate, List.append_assoc]
        exact (AlikeCells.refl _).append
          ((alikeCells_replicate halike _).append (AlikeCells.refl _))
      · rw [cellsOf_cons]
        exact (AlikeCells.refl _).append (ih _ hrun hrest)

theorem nonempty_joinOnto (current : Run) (runs : List Run) (h : 0 < current.length)
    (hruns : ∀ run ∈ runs, 0 ≤ run.length) : ∀ run ∈ joinOnto current runs, 0 < run.length := by
  induction runs generalizing current with
  | nil => simpa [joinOnto] using h
  | cons run rest ih =>
    have hrun := hruns run (List.mem_cons_self ..)
    have hrest : ∀ other ∈ rest, 0 ≤ other.length :=
      fun other hother => hruns other (List.mem_cons_of_mem _ hother)
    rw [joinOnto]
    split
    · exact ih current h hrest
    · next hzero =>
      split
      · exact ih _ (by simp only; omega) hrest
      · intro other hother
        rcases List.mem_cons.1 hother with rfl | hother
        · exact h
        · exact ih ⟨current.stop, run.length, run.attributes⟩ (by simp only; omega) hrest
            other hother

/-- What the joined runs begin with. -/
theorem joinOnto_eq_cons (current : Run) (runs : List Run) :
    ∃ length rest, joinOnto current runs = ⟨current.start, length, current.attributes⟩ :: rest := by
  induction runs generalizing current with
  | nil => exact ⟨current.length, [], rfl⟩
  | cons run rest ih =>
    rw [joinOnto]
    split
    · exact ih current
    · split
      · exact ih { current with length := current.length + run.length }
      · exact ⟨current.length, _, rfl⟩

theorem apart_joinOnto (current : Run) (runs : List Run) : Apart (joinOnto current runs) := by
  induction runs generalizing current with
  | nil => trivial
  | cons run rest ih =>
    rw [joinOnto]
    split
    · exact ih current
    · split
      · exact ih _
      · next hapart =>
        have happly := ih ⟨current.stop, run.length, run.attributes⟩
        obtain ⟨length, others, heq⟩ :=
          joinOnto_eq_cons ⟨current.stop, run.length, run.attributes⟩ rest
        rw [heq] at happly ⊢
        exact ⟨hapart, happly⟩

theorem laidOut_join (runs : List Run) : LaidOut 0 (join runs) (total runs) := by
  induction runs with
  | nil => rfl
  | cons run rest ih =>
    rw [join]
    split
    · next hzero => simpa [hzero] using ih
    · simpa [Run.stop] using laidOut_joinOnto ⟨0, run.length, run.attributes⟩ rest

theorem cellsOf_join {runs : List Run} (h : ∀ run ∈ runs, 0 ≤ run.length) :
    AlikeCells (cellsOf (join runs)) (cellsOf runs) := by
  induction runs with
  | nil => exact .nil
  | cons run rest ih =>
    have hrest : ∀ other ∈ rest, 0 ≤ other.length :=
      fun other hother => h other (List.mem_cons_of_mem _ hother)
    rw [join]
    split
    · next hzero => simpa [hzero] using ih hrest
    · rw [cellsOf_cons]
      exact cellsOf_joinOnto ⟨0, run.length, run.attributes⟩ rest
        (h run (List.mem_cons_self ..)) hrest

theorem nonempty_join {runs : List Run} (h : ∀ run ∈ runs, 0 ≤ run.length) :
    ∀ run ∈ join runs, 0 < run.length := by
  induction runs with
  | nil => simp [join]
  | cons run rest ih =>
    have hrun := h run (List.mem_cons_self ..)
    have hrest : ∀ other ∈ rest, 0 ≤ other.length :=
      fun other hother => h other (List.mem_cons_of_mem _ hother)
    rw [join]
    split
    · exact ih hrest
    · exact nonempty_joinOnto ⟨0, run.length, run.attributes⟩ rest (by simp only; omega) hrest

theorem apart_join (runs : List Run) : Apart (join runs) := by
  induction runs with
  | nil => trivial
  | cons run rest ih =>
    rw [join]
    split
    · exact ih
    · exact apart_joinOnto _ rest

/-- Joined runs that owe no characters, and have the right number of them in all,
make a canonical run list. -/
theorem canonical_ofRuns {runs : List Run} {length : Int} (h : ∀ run ∈ runs, 0 ≤ run.length)
    (htotal : total runs = length) : (ofRuns runs length).Canonical where
  laidOut := htotal ▸ laidOut_join runs
  nonempty := nonempty_join h
  starts := rfl
  apart := apart_join runs

theorem cells_ofRuns {runs : List Run} (h : ∀ run ∈ runs, 0 ≤ run.length) (length : Int) :
    AlikeCells (ofRuns runs length).cells (cellsOf runs) := cellsOf_join h

/-! ### Searching -/

/-- Where the starts up to an offset are those before one position, halving finds
that position. -/
theorem bisect_eq {starts : List Int} {offset : Int} {position : Nat}
    (h : ∀ index start, starts[index]? = some start → (start ≤ offset ↔ index < position))
    {fuel low high : Nat} (hlow : low ≤ position) (hhigh : position ≤ high)
    (hlength : high ≤ starts.length) (hfuel : high - low ≤ fuel) :
    bisect starts offset fuel low high = position := by
  induction fuel generalizing low high with
  | zero =>
    rw [bisect]
    omega
  | succ fuel ih =>
    rw [bisect]
    split
    · next hlt =>
      have hmiddle : (low + high) / 2 < starts.length := by omega
      have hiff := h _ _ (List.getElem?_eq_getElem hmiddle)
      simp only [List.getD_eq_getElem?_getD, List.getElem?_eq_getElem hmiddle, Option.getD_some]
      split
      · exact ih hlow (by omega) (by omega) (by omega)
      · exact ih (by omega) hhigh hlength (by omega)
    · omega

theorem start_le_of_laidOut {start stop : Int} {runs : List Run} (h : LaidOut start runs stop)
    (hnonempty : ∀ run ∈ runs, 0 < run.length) {run : Run} (hrun : run ∈ runs) :
    start ≤ run.start := by
  induction runs generalizing start with
  | nil => simp at hrun
  | cons first rest ih =>
    obtain ⟨hstart, hrest⟩ := h
    rcases List.mem_cons.1 hrun with rfl | hrun
    · omega
    · have hle := ih hrest
        (fun other hother => hnonempty other (List.mem_cons_of_mem _ hother)) hrun
      have hfirst := hnonempty first (List.mem_cons_self ..)
      simp only [Run.stop] at hle
      omega

/-- The run that holds an offset is the last one that starts at or before it. -/
theorem exists_run_at {start stop offset : Int} {runs : List Run}
    (h : LaidOut start runs stop) (hnonempty : ∀ run ∈ runs, 0 < run.length)
    (hle : start ≤ offset) (hlt : offset < stop) :
    ∃ left run right, runs = left ++ run :: right ∧ run.start ≤ offset ∧ offset < run.stop ∧
      ∀ index found, (runs.map Run.start)[index]? = some found →
        (found ≤ offset ↔ index < left.length + 1) := by
  induction runs generalizing start with
  | nil =>
    have : start = stop := h
    omega
  | cons run rest ih =>
    obtain ⟨hstart, hrest⟩ := h
    have hbehind : ∀ other ∈ rest, 0 < other.length :=
      fun other hother => hnonempty other (List.mem_cons_of_mem _ hother)
    by_cases hin : offset < run.stop
    · refine ⟨[], run, rest, rfl, by omega, hin, ?_⟩
      intro index found hfound
      cases index with
      | zero =>
        obtain rfl : run.start = found := by simpa using hfound
        simp
        omega
      | succ index =>
        obtain ⟨other, hother, rfl⟩ : ∃ other, rest[index]? = some other ∧ other.start = found := by
          simpa using hfound
        have := start_le_of_laidOut hrest hbehind (List.mem_of_getElem? hother)
        simp
        omega
    · obtain ⟨left, held, right, rfl, hbefore, hbelow, hindex⟩ :=
        ih hrest hbehind (by omega)
      refine ⟨run :: left, held, right, rfl, hbefore, hbelow, ?_⟩
      intro index found hfound
      cases index with
      | zero =>
        obtain rfl : run.start = found := by simpa using hfound
        simp
        omega
      | succ index =>
        have := hindex index found (by simpa using hfound)
        simp only [List.length_cons]
        omega

/-- In a well-formed run list the search for an offset finds the run that holds it. -/
theorem exists_run_indexAt {list : RunList} (h : list.WellFormed) {offset : Int} (hle : 0 ≤ offset)
    (hlt : offset < list.length) :
    ∃ left run right, list.runs = left ++ run :: right ∧ run.start ≤ offset ∧ offset < run.stop ∧
      list.indexAt offset = left.length := by
  obtain ⟨left, run, right, hruns, hbefore, hbelow, hindex⟩ :=
    exists_run_at h.laidOut h.nonempty hle hlt
  refine ⟨left, run, right, hruns, hbefore, hbelow, ?_⟩
  have hlength : list.starts.length = left.length + 1 + right.length := by
    simp [h.starts, hruns]
    omega
  rw [indexAt, bisect_eq (h.starts ▸ hindex) (Nat.zero_le _) (by omega) (Nat.le_refl _) (by omega)]
  rfl

/-! ### Splitting -/

theorem le_of_laidOut {start stop : Int} {runs : List Run} (h : LaidOut start runs stop)
    (hruns : ∀ run ∈ runs, 0 < run.length) : start ≤ stop := by
  have htotal := total_of_laidOut h
  have hlength := length_cellsOf fun run hrun => Int.le_of_lt (hruns run hrun)
  omega

/-- Splitting at an offset gives well-formed runs with the same cells, of which
those before the position found end at the offset and the others begin there.
The runs that lie before the offset are still the first ones. -/
structure SplitsAt (list : RunList) (offset : Nat) (split : RunList) (index : Nat) : Prop where
  length : split.length = list.length
  wellFormed : split.WellFormed
  cells : split.cells = list.cells
  index_le : index ≤ split.runs.length
  before : LaidOut 0 (split.runs.take index) offset
  behind : LaidOut offset (split.runs.drop index) list.length
  keeps : ∀ {count : Nat} {stop : Int}, LaidOut 0 (list.runs.take count) stop → stop ≤ offset →
    split.runs.take count = list.runs.take count

/-- The two parts of a run lie on both sides of the offset at which it is split. -/
theorem laidOut_parts {start stop : Int} {left right : List Run} {run : Run}
    (h : LaidOut start (left ++ run :: right) stop) (offset : Int) :
    LaidOut start (left ++ [⟨run.start, offset - run.start, run.attributes⟩]) offset ∧
      LaidOut offset
        (⟨offset, run.length - (offset - run.start), run.attributes⟩ :: right) stop := by
  obtain ⟨middle, hleft, hstart, hright⟩ := laidOut_append.1 h
  constructor
  · refine laidOut_append.2 ⟨middle, hleft, hstart, ?_⟩
    simp only [LaidOut, Run.stop]
    omega
  · refine ⟨rfl, ?_⟩
    have hstop : (Run.mk offset (run.length - (offset - run.start)) run.attributes).stop =
        run.stop := by
      simp only [Run.stop]
      omega
    rwa [hstop]

/-- The two parts of a run style the characters that the run styled. -/
theorem cellsOf_parts {offset : Int} {run : Run} (hfirst : run.start ≤ offset)
    (hlast : offset ≤ run.stop) (left right : List Run) :
    cellsOf (left ++ ⟨run.start, offset - run.start, run.attributes⟩ ::
        ⟨offset, run.length - (offset - run.start), run.attributes⟩ :: right) =
      cellsOf (left ++ run :: right) := by
  have hlength : run.length.toNat =
      (offset - run.start).toNat + (run.length - (offset - run.start)).toNat := by
    simp only [Run.stop] at hlast
    omega
  simp only [cellsOf_append, cellsOf_cons]
  rw [hlength, ← List.replicate_append_replicate, List.append_assoc]

/-- Runs that end before an offset do not reach into the run that holds it. -/
theorem count_le_of_laidOut {start stop offset : Int} {left right : List Run} {run : Run}
    (hruns : ∀ other ∈ left ++ run :: right, 0 < other.length) (hoffset : offset < run.stop)
    {count : Nat} (h : LaidOut start ((left ++ run :: right).take count) stop)
    (hstop : stop ≤ offset) : count ≤ left.length := by
  by_contra hcount
  obtain ⟨more, rfl⟩ : ∃ more, count = left.length + (more + 1) :=
    ⟨count - left.length - 1, by omega⟩
  rw [List.take_length_add_append, List.take_succ_cons] at h
  obtain ⟨middle, -, -, hmore⟩ := laidOut_append.1 h
  have hle := le_of_laidOut hmore fun other hother =>
    hruns other (by simp [List.mem_of_mem_take hother])
  omega

theorem splitsAt_splitAt {list : RunList} (h : list.WellFormed) {offset : Nat}
    (hle : (offset : Int) ≤ list.length) :
    ∃ split index, list.splitAt offset = .ok (split, index) ∧ SplitsAt list offset split index := by
  rw [splitAt]
  split
  · next hend =>
    have heq : list.length = (offset : Int) := by omega
    exact ⟨_, _, rfl, rfl, h, rfl, Nat.le_refl _, by simpa [← heq] using h.laidOut,
      by simp [LaidOut, heq], fun _ _ => rfl⟩
  · next hinside =>
    obtain ⟨left, run, right, hruns, hfirst, hlast, hposition⟩ :=
      exists_run_indexAt h (by omega) (by omega : (offset : Int) < list.length)
    have hget : list.runs[left.length]? = some run := by simp [hruns]
    have htake : list.runs.take left.length = left := by simp [hruns]
    have hdrop : list.runs.drop (left.length + 1) = right := by simp [hruns]
    simp only [hposition, hget]
    split
    · next hat =>
      obtain ⟨middle, hleft, hstart, hright⟩ := laidOut_append.1 (hruns ▸ h.laidOut)
      refine ⟨_, _, rfl, rfl, h, rfl, by simp [hruns], ?_, ?_, fun _ _ => rfl⟩
      · rwa [htake, ← hat, hstart]
      · rw [hruns, List.drop_left, ← hat]
        exact ⟨rfl, hright⟩
    · next hbetween =>
      obtain ⟨hbefore, hbehind⟩ := laidOut_parts (hruns ▸ h.laidOut) offset
      rw [htake, hdrop]
      refine ⟨_, _, rfl, rfl, ⟨?_, ?_, ?_⟩, ?_, ?_, ?_, ?_, ?_⟩
      · simpa using laidOut_append.2 ⟨_, hbefore, hbehind⟩
      · intro other hother
        simp only [Run.stop] at hlast
        simp only [List.mem_append, List.mem_cons] at hother
        rcases hother with hother | rfl | rfl | hother
        · exact h.nonempty other (by simp [hruns, hother])
        · simp only; omega
        · simp only; omega
        · exact h.nonempty other (by simp [hruns, hother])
      · simp only [h.starts, hruns, List.map_append, List.map_cons]
        simp [List.take_append, List.drop_append, List.take_of_length_le, List.drop_of_length_le]
      · rw [cells, cells, hruns]
        exact cellsOf_parts hfirst (Int.le_of_lt hlast) left right
      · simp
      · simpa [List.take_append, List.take_of_length_le] using hbefore
      · simpa [List.drop_append, List.drop_of_length_le] using hbehind
      · intro count stop hcount hstop
        rw [hruns] at hcount
        have hle := count_le_of_laidOut (hruns ▸ h.nonempty) hlast hcount hstop
        rw [hruns, List.take_append_of_le_length hle, List.take_append_of_le_length hle]

end MarkupEditor.RunList
