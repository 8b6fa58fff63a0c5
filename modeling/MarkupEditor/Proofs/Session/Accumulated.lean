import MarkupEditor.Proofs.Session.Refusals
import Mathlib.Order.Bounds.Image

/-!
# Edits that add up

While nothing is reported, the edits recorded add up: kinds of change and changes of length
do so by themselves, and the span that is pending lies close around all new texts, each of
them carried over the edits after it.  Carrying keeps the order of offsets, so it is enough
to carry the ends of one span.  An edit that would leave a negative number of characters is
refused and adds nothing.
-/

namespace MarkupEditor

namespace Pending

/-- An edit as a host records it: kinds of change, the span before the edit, and the change
of its length. -/
structure Edit where
  mask : Nat
  span : Span
  delta : Int

namespace Edit

/-- An edit leaves no negative number of characters. -/
def Valid (edit : Edit) : Prop := 0 ≤ edit.span.length + edit.delta

instance (edit : Edit) : Decidable edit.Valid :=
  inferInstanceAs (Decidable (0 ≤ edit.span.length + edit.delta))

/-- The first offset behind the new text. -/
def stop (edit : Edit) : Int := edit.span.start + (edit.span.length + edit.delta)

/-- Where an offset lies after an edit. -/
def carry (edit : Edit) (offset : Int) : Int := Pending.carry edit.span edit.delta offset

def command (edit : Edit) : Command :=
  .recordEdit edit.mask [edit.span.start, edit.span.length] edit.delta

theorem Valid.carry_le {edit : Edit} (h : edit.Valid) {offset offset' : Int}
    (hle : offset ≤ offset') : edit.carry offset ≤ edit.carry offset' :=
  carry_mono h hle

theorem Valid.start_le_stop {edit : Edit} (h : edit.Valid) : (edit.span.start : Int) ≤ edit.stop :=
  Int.le_add_of_nonneg_right h

end Edit

/-- Where an offset lies after edits, the first one first. -/
def carryAll (edits : List Edit) (offset : Int) : Int :=
  edits.foldl (fun offset edit => edit.carry offset) offset

/-- Both ends of the new text of each edit, where they lie after all of the edits. -/
def ends : List Edit → List Int
  | [] => []
  | edit :: later =>
    carryAll later edit.span.start :: carryAll later edit.stop :: ends later

theorem ends_concat (edits : List Edit) (edit : Edit) :
    ends (edits ++ [edit]) =
      (ends edits).map edit.carry ++ [(edit.span.start : Int), edit.stop] := by
  induction edits with
  | nil => rfl
  | cons first rest ih =>
      rw [List.cons_append, ends, ends, ih, carryAll, carryAll, List.foldl_append,
        List.foldl_append]
      rfl

/-- What is pending is what some edits add up to. -/
structure Sums (edits : List Edit) (pending : Pending) : Prop where
  mask : pending.mask = edits.foldl (fun mask edit => mask ||| edit.mask) 0
  delta : pending.delta = edits.foldl (fun delta edit => delta + edit.delta) 0
  nothing : edits = [] → pending.span = .none
  hull : edits ≠ [] → ∃ span, pending.span = some span ∧
    IsLeast {offset | offset ∈ ends edits} (span.start : Int) ∧
    IsGreatest {offset | offset ∈ ends edits} (span.stop : Int)

theorem sums_none : Sums [] .none where
  mask := rfl
  delta := rfl
  nothing _ := rfl
  hull h := absurd rfl h

/-! ### One more edit -/

variable {edits : List Edit} {edit : Edit} {pending : Pending}

theorem bounds_ends_singleton (h : edit.Valid) :
    IsLeast {offset | offset ∈ ends [edit]} (edit.span.start : Int) ∧
      IsGreatest {offset | offset ∈ ends [edit]} edit.stop := by
  have hset : {offset | offset ∈ ends [edit]} = {(edit.span.start : Int), edit.stop} := by
    ext offset
    simp [ends, carryAll]
  have hleast : IsLeast {(edit.span.start : Int), edit.stop}
      (min (edit.span.start : Int) edit.stop) := isLeast_pair
  have hgreatest : IsGreatest {(edit.span.start : Int), edit.stop}
      (max (edit.span.start : Int) edit.stop) := isGreatest_pair
  rw [min_eq_left h.start_le_stop] at hleast
  rw [max_eq_right h.start_le_stop] at hgreatest
  rw [hset]
  exact ⟨hleast, hgreatest⟩

/-- The least and the greatest end, when one more edit has been made. -/
theorem bounds_ends_concat (h : edit.Valid) {start stop : Int}
    (hstart : IsLeast {offset | offset ∈ ends edits} start)
    (hstop : IsGreatest {offset | offset ∈ ends edits} stop) :
    IsLeast {offset | offset ∈ ends (edits ++ [edit])} (min edit.span.start (edit.carry start)) ∧
      IsGreatest {offset | offset ∈ ends (edits ++ [edit])} (max edit.stop (edit.carry stop)) := by
  have hset : {offset | offset ∈ ends (edits ++ [edit])} =
      {offset | offset ∈ ends [edit]} ∪ edit.carry '' {offset | offset ∈ ends edits} := by
    ext offset
    rw [ends_concat]
    simp [ends, carryAll, or_comm]
  have hmono : Monotone edit.carry := fun _ _ hle => h.carry_le hle
  obtain ⟨hleast, hgreatest⟩ := bounds_ends_singleton h
  rw [hset]
  exact ⟨hleast.union (hmono.map_isLeast hstart), hgreatest.union (hmono.map_isGreatest hstop)⟩

/-- An edit that leaves no negative number of characters is recorded, and adds to what is
pending. -/
theorem Sums.exists_record (h : Sums edits pending) (hvalid : edit.Valid) :
    ∃ recorded, pending.record edit.mask edit.span edit.delta = .ok recorded ∧
      Sums (edits ++ [edit]) recorded := by
  have hmask : pending.mask ||| edit.mask =
      (edits ++ [edit]).foldl (fun mask edit => mask ||| edit.mask) 0 := by
    rw [List.foldl_append, ← h.mask]
    rfl
  have hdelta : pending.delta + edit.delta =
      (edits ++ [edit]).foldl (fun delta edit => delta + edit.delta) 0 := by
    rw [List.foldl_append, ← h.delta]
    rfl
  have hne : edits ++ [edit] ≠ [] := by simp
  have hnew : 0 ≤ edit.span.length + edit.delta := hvalid
  obtain ⟨newLength, hlength⟩ := Int.eq_ofNat_of_zero_le hnew
  by_cases hedits : edits = []
  · refine ⟨_, record_of_none (h.nothing hedits) hlength.symm edit.mask, hmask, hdelta,
      fun hnil => absurd hnil hne, ?_⟩
    intro _
    have hstop : ((Span.mk edit.span.start newLength).stop : Int) = edit.stop := by
      rw [Edit.stop, hlength]
      rfl
    refine ⟨_, rfl, ?_⟩
    rw [hedits, hstop]
    exact bounds_ends_singleton hvalid
  · obtain ⟨earlier, hspan, hleast, hgreatest⟩ := h.hull hedits
    obtain ⟨hull, hrecord, hstart, hstop⟩ := exists_record_of_some hspan hlength.symm edit.mask
    refine ⟨_, hrecord, hmask, hdelta, fun hnil => absurd hnil hne, ?_⟩
    intro _
    refine ⟨hull, rfl, ?_⟩
    rw [hstart, hstop]
    exact bounds_ends_concat hvalid hleast hgreatest

end Pending

/-! ### Sessions -/

namespace Session

open Pending

variable {session : Session} {done : List Edit}

/-- The session with something else pending. -/
def withPending (session : Session) (pending : Pending) : Session :=
  { session with buffer := { session.buffer with pending := pending } }

theorem run_command (session : Session) (edit : Edit) :
    session.run edit.command =
      .ofChange session (session.buffer.recordEdit edit.mask edit.span edit.delta) := by
  have hspan : Span.ofCoordinates [edit.span.start, edit.span.length] = .ok edit.span :=
    Span.ofInts_natCast ..
  rw [run, Edit.command, execute]
  exact congrArg (Outcome.ofChange session) (leaving_bind_eq_of_eq_ok hspan _)

theorem exists_run_command (h : Sums done session.buffer.pending) {edit : Edit}
    (hvalid : edit.Valid) :
    ∃ recorded, session.run edit.command = ⟨session.withPending recorded, [], .ok .done⟩ ∧
      Sums (done ++ [edit]) recorded := by
  obtain ⟨recorded, hrecord, hsums⟩ := h.exists_record hvalid
  refine ⟨recorded, ?_, hsums⟩
  rw [run_command, Buffer.recordEdit, hrecord]
  rfl

theorem run_command_of_not_valid (session : Session) {edit : Edit} (hvalid : ¬ edit.Valid) :
    session.run edit.command =
      ⟨session, [], .error (.invalidRange edit.span.start (edit.span.length + edit.delta))⟩ := by
  have hnegative : edit.span.length + edit.delta < 0 := Int.not_le.1 hvalid
  rw [run_command, Buffer.recordEdit_eq_error hnegative]
  rfl

theorem exists_runAll_commands (h : Sums done session.buffer.pending) (edits : List Edit) :
    ∃ pending, session.runAll (edits.map Edit.command) = session.withPending pending ∧
      Sums (done ++ edits.filter fun edit => edit.Valid) pending := by
  induction edits generalizing session done with
  | nil => exact ⟨session.buffer.pending, rfl, (List.append_nil done).symm ▸ h⟩
  | cons edit rest ih =>
      rw [List.map_cons, runAll, List.foldl_cons]
      by_cases hvalid : edit.Valid
      · obtain ⟨recorded, hrun, hrecorded⟩ := exists_run_command h hvalid
        obtain ⟨pending, hrest, hsums⟩ := @ih (session.withPending recorded) _ hrecorded
        refine ⟨pending, ?_, ?_⟩
        · rw [hrun]
          exact hrest
        · rw [List.filter_cons_of_pos (by simpa using hvalid)]
          rwa [List.append_assoc] at hsums
      · obtain ⟨pending, hrest, hsums⟩ := ih h
        refine ⟨pending, ?_, ?_⟩
        · rw [run_command_of_not_valid session hvalid]
          exact hrest
        · rwa [List.filter_cons_of_neg (by simpa using hvalid)]

/-- Where nothing was pending, what is pending after edits is what those that leave no
negative number of characters add up to, and nothing else has changed.  One more edit is
recorded exactly if it is such an edit, and then carries offsets in order; if not, it is
refused and leaves everything as it is. -/
theorem sums_runAll_commands (h : session.buffer.pending = .none) (edits : List Edit) :
    (∃ pending, session.runAll (edits.map Edit.command) = session.withPending pending ∧
      Sums (edits.filter fun edit => edit.Valid) pending) ∧
    ∀ edit : Edit, match ((session.runAll (edits.map Edit.command)).run edit.command).result with
      | .ok _ => edit.Valid ∧
          ∀ offset offset' : Int, offset ≤ offset' → edit.carry offset ≤ edit.carry offset'
      | .error failure => ¬ edit.Valid ∧
          failure = .invalidRange edit.span.start (edit.span.length + edit.delta) ∧
          ((session.runAll (edits.map Edit.command)).run edit.command).session =
            session.runAll (edits.map Edit.command) := by
  have hnone : Sums [] session.buffer.pending := by
    rw [h]
    exact sums_none
  obtain ⟨pending, hrun, hsums⟩ := exists_runAll_commands hnone edits
  refine ⟨⟨pending, hrun, hsums⟩, ?_⟩
  intro edit
  by_cases hvalid : edit.Valid
  · have hreached : Sums (edits.filter fun edit => edit.Valid)
        (session.runAll (edits.map Edit.command)).buffer.pending := by
      rw [hrun]
      exact hsums
    obtain ⟨recorded, hrecord, -⟩ := exists_run_command hreached hvalid
    rw [hrecord]
    exact ⟨hvalid, fun _ _ hle => hvalid.carry_le hle⟩
  · rw [run_command_of_not_valid _ hvalid]
    exact ⟨hvalid, rfl, rfl⟩

/-- An insertion, an edit that asks too much, and one that swallows the insertion. -/
def swallowed : List Edit := [⟨2, ⟨5, 1⟩, 3⟩, ⟨1, ⟨0, 2⟩, -3⟩, ⟨1, ⟨4, 6⟩, -5⟩]

theorem sums_runAll_swallowed :
    let session := new (Buffer.new hiddenFont .standard)
    session.buffer.pending = .none ∧
      session.runAll (swallowed.map Edit.command) = session.withPending ⟨3, some ⟨4, 1⟩, -2⟩ ∧
      Sums [⟨2, ⟨5, 1⟩, 3⟩, ⟨1, ⟨4, 6⟩, -5⟩] ⟨3, some ⟨4, 1⟩, -2⟩ := by
  intro session
  have h : session.buffer.pending = .none := rfl
  obtain ⟨⟨pending, hrun, hsums⟩, -⟩ := sums_runAll_commands h swallowed
  have hpending : pending = ⟨3, some ⟨4, 1⟩, -2⟩ := by
    have hreached : (session.runAll (swallowed.map Edit.command)).buffer.pending =
        ⟨3, some ⟨4, 1⟩, -2⟩ := by
      decide +kernel
    rw [← hreached, hrun]
    rfl
  rw [hpending] at hrun hsums
  exact ⟨h, hrun, hsums⟩

end Session

end MarkupEditor
