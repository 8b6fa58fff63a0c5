import MarkupEditor.Proofs.Buffer.Consistent
import MarkupEditor.Proofs.Buffer.Diff

/-!
# What is pending accounts for the text

What a buffer has pending is a difference between the text that was reported
last and the present one, and outside of transactions nothing is pending.  The
end of a transaction with something pending reports this difference.
-/

namespace MarkupEditor

namespace Pending

/-- What is pending explains how a text has become another one. -/
inductive Accounts (old : List Char) : List Char → Pending → Prop
  | none : Accounts old old .none
  | some {new : List Char} {mask : Nat} {span : Span} {delta : Int} (hmask : mask ≠ 0)
      (hdiff : Diff old new span delta) : Accounts old new ⟨mask, some span, delta⟩

theorem Accounts.of_mask_eq_zero {old new : List Char} {pending : Pending}
    (h : pending.Accounts old new) (hmask : pending.mask = 0) : pending = .none ∧ new = old := by
  cases h with
  | none => exact ⟨rfl, rfl⟩
  | some hne => exact absurd hmask hne

/-- The event that sums up what is pending reports the difference. -/
theorem Accounts.event {old new : List Char} {pending : Pending} (h : pending.Accounts old new)
    (hmask : pending.mask ≠ 0) : Diff old new pending.event.span pending.event.delta := by
  cases h with
  | none => exact absurd rfl hmask
  | some _ hdiff => exact hdiff

/-! ### Offsets carried over an edit -/

theorem carry_cases (span : Span) (delta offset : Int) :
    (offset ≤ span.start ∧ carry span delta offset = offset) ∨
      (span.start < offset ∧ span.stop ≤ offset ∧ carry span delta offset = offset + delta) ∨
      (span.start < offset ∧ offset < span.stop ∧
        carry span delta offset = min offset (span.start + (span.length + delta))) := by
  rw [carry]
  by_cases hbefore : offset ≤ span.start
  · rw [if_pos hbefore]
    exact .inl ⟨hbefore, rfl⟩
  · rw [if_neg hbefore]
    by_cases hbehind : span.stop ≤ offset
    · rw [if_pos hbehind]
      exact .inr (.inl ⟨Int.not_le.1 hbefore, hbehind, rfl⟩)
    · rw [if_neg hbehind]
      exact .inr (.inr ⟨Int.not_le.1 hbefore, Int.not_le.1 hbehind, rfl⟩)

theorem carry_mono {span : Span} {delta offset offset' : Int} (h : 0 ≤ span.length + delta)
    (hle : offset ≤ offset') : carry span delta offset ≤ carry span delta offset' := by
  have hstop : (span.stop : Int) = span.start + span.length := rfl
  obtain hcase | hcase | hcase := carry_cases span delta offset <;>
    obtain hcase' | hcase' | hcase' := carry_cases span delta offset' <;> omega

/-- Only what lies behind the start of an edit moves, and not before that start. -/
theorem min_carry {span : Span} {delta : Int} (h : 0 ≤ span.length + delta) (offset : Int) :
    min (span.start : Int) (carry span delta offset) = min (span.start : Int) offset := by
  have hstop : (span.stop : Int) = span.start + span.length := rfl
  obtain hcase | hcase | hcase := carry_cases span delta offset <;> omega

/-- Up to the end of the new text, what is carried over moves by the change of
length. -/
theorem max_carry {span : Span} {delta : Int} (h : 0 ≤ span.length + delta) (offset : Int) :
    max (span.start + (span.length + delta)) (carry span delta offset) =
      max (span.start + (span.length + delta)) (offset + delta) := by
  have hstop : (span.stop : Int) = span.start + span.length := rfl
  obtain hcase | hcase | hcase := carry_cases span delta offset <;> omega

/-- The ends of a span that is carried over an edit are its ends, carried over. -/
theorem exists_carried {span : Span} {delta : Int} (h : 0 ≤ span.length + delta) (earlier : Span) :
    ∃ carried : Span, Span.ofInts (carry span delta earlier.start)
        (carry span delta earlier.stop - carry span delta earlier.start) = .ok carried ∧
      (carried.start : Int) = carry span delta earlier.start ∧
      (carried.stop : Int) = carry span delta earlier.stop := by
  have hzero : carry span delta 0 = 0 := by
    rw [carry, if_pos (Int.natCast_nonneg _)]
  have hstart : carry span delta 0 ≤ carry span delta earlier.start :=
    carry_mono h (Int.natCast_nonneg _)
  have hordered : (earlier.start : Int) ≤ earlier.stop := Int.ofNat_le.2 (Nat.le_add_right ..)
  have hle : carry span delta earlier.start ≤ carry span delta earlier.stop :=
    carry_mono h hordered
  refine ⟨_, if_neg (by omega), ?_, ?_⟩
  · simp only
    omega
  · simp only [Span.stop] at hle ⊢
    omega

/-! ### Records -/

variable {pending : Pending} {span : Span} {delta : Int} {newLength : Nat}

theorem record_of_none (hspan : pending.span = .none)
    (hlength : (newLength : Int) = span.length + delta) (mask : Nat) :
    pending.record mask span delta =
      .ok ⟨pending.mask ||| mask, some ⟨span.start, newLength⟩, pending.delta + delta⟩ := by
  rw [record, ← hlength, Span.ofInts_natCast, hspan]
  rfl

/-- The new text and the span pending, carried over, are pending together. -/
theorem exists_record_of_some {earlier : Span} (hspan : pending.span = some earlier)
    (hlength : (newLength : Int) = span.length + delta) (mask : Nat) :
    ∃ hull : Span, pending.record mask span delta =
        .ok ⟨pending.mask ||| mask, some hull, pending.delta + delta⟩ ∧
      (hull.start : Int) = min (span.start : Int) (carry span delta earlier.start) ∧
      (hull.stop : Int) = max (span.start + (span.length + delta))
        (carry span delta earlier.stop) := by
  obtain ⟨carried, hcarried, hstart, hstop⟩ :=
    exists_carried (hlength ▸ Int.natCast_nonneg newLength) earlier
  refine ⟨(Span.mk span.start newLength).union carried, ?_, ?_, ?_⟩
  · rw [record, ← hlength, Span.ofInts_natCast, hspan]
    exact bind_eq_of_eq_ok hcarried _
  · simp only [Span.union]
    omega
  · have hnew : ((Span.mk span.start newLength).stop : Int) =
        span.start + (span.length + delta) := hlength ▸ rfl
    rw [Span.stop_union]
    omega

/-- Recording an edit never fails, and accounts for it as well. -/
theorem exists_record {old middle new : List Char} (h : pending.Accounts old middle) {mask : Nat}
    (hmask : mask ≠ 0) (hlength : (newLength : Int) = span.length + delta)
    (hdiff : Diff middle new ⟨span.start, newLength⟩ delta) :
    ∃ recorded, pending.record mask span delta = .ok recorded ∧ recorded.Accounts old new := by
  cases h with
  | none =>
      refine ⟨_, record_of_none rfl hlength mask, ?_⟩
      rw [none, Nat.zero_or, Int.zero_add]
      exact .some hmask hdiff
  | @some _ earlierMask earlier earlierDelta hearlier hrecorded =>
      obtain ⟨hull, hrecord, hstart, hstop⟩ :=
        @exists_record_of_some ⟨earlierMask, some earlier, earlierDelta⟩ _ _ _ _ rfl hlength mask
      refine ⟨_, hrecord, ?_⟩
      apply Accounts.some
      · intro hzero
        exact hmask (Nat.or_eq_zero_iff.1 hzero).2
      · have hnew : 0 ≤ span.length + delta := hlength ▸ Int.natCast_nonneg newLength
        apply hrecorded.trans hdiff
        · rw [min_carry hnew] at hstart
          simp only
          omega
        · rw [max_carry hnew] at hstop
          simp only [Span.stop] at hstop ⊢
          omega

end Pending

namespace Buffer

/-- A buffer whose text differs by what is pending from the one reported last, and
that has nothing pending outside of transactions. -/
structure Accounted (buffer : Buffer) (reported : List Char) : Prop where
  pending : buffer.pending.Accounts reported buffer.text
  idle : buffer.depth = 0 → buffer.pending = .none

theorem accounted_new (font : Value) (roles : Roles) : (new font roles).Accounted [] :=
  ⟨.none, fun _ => rfl⟩

variable {buffer after : Buffer} {reported : List Char}

theorem Accounted.text_eq (h : buffer.Accounted reported) (hdepth : buffer.depth = 0) :
    buffer.text = reported := by
  have hmask : buffer.pending.mask = 0 := by
    rw [h.idle hdepth]
    rfl
  exact (h.pending.of_mask_eq_zero hmask).2

/-- What an edit leaves: a notice that is due reports the difference to the text
reported before, and all is reported then. -/
def Settles (reported : List Char) (after : Buffer) : Option Notice → Prop
  | none => after.Accounted reported
  | some notice =>
    Diff reported after.text notice.event.span notice.event.delta ∧ after.Accounted after.text

theorem settles_endEditing (h : buffer.pending.Accounts reported buffer.text)
    {notice : Option Notice} (hafter : buffer.endEditing = .ok (after, notice)) :
    Settles reported after notice := by
  obtain ⟨depth, -, ⟨hquiet, rfl, rfl⟩ | ⟨-, hmask, spans, hpass, rfl⟩⟩ :=
    endEditing_cases hafter
  · refine ⟨h, fun hdepth => ?_⟩
    have hmask : buffer.pending.mask = 0 := hquiet.resolve_left (not_not_intro hdepth)
    exact (h.of_mask_eq_zero hmask).1
  · obtain ⟨runs, rfl⟩ := eq_of_colorize_eq_ok hpass
    exact ⟨h.event hmask, .none, fun _ => rfl⟩

theorem accounts_recordEdit {mask : Nat} {span : Span} {delta : Int}
    (hafter : buffer.recordEdit mask span delta = .ok after) {text : List Char}
    (h : buffer.pending.Accounts reported text) (hmask : mask ≠ 0) {newLength : Nat}
    (hlength : (newLength : Int) = span.length + delta)
    (hdiff : Diff text buffer.text ⟨span.start, newLength⟩ delta) :
    after.pending.Accounts reported after.text := by
  obtain ⟨recorded, hrecorded, haccounts⟩ := Pending.exists_record h hmask hlength hdiff
  obtain ⟨pending, hpending, hresult⟩ := exists_of_bind_eq_ok hafter
  cases hrecorded.symm.trans (eq_ok_of_leaving hpending)
  cases hresult
  exact haccounts

/-- A transaction settles what its edit accounts for. -/
theorem settles_transact {edit : Buffer → Attempt Buffer Buffer}
    (hedit : ∀ edited, edit buffer.beginEditing = .ok edited →
      edited.pending.Accounts reported edited.text)
    {notice : Option Notice} (hafter : buffer.transact edit = .ok (after, notice)) :
    Settles reported after notice := by
  obtain ⟨edited, hedited, hend⟩ := exists_of_transact_eq_ok hafter
  exact settles_endEditing (hedit edited hedited) hend

theorem settles_replaceCharacters (h : buffer.pending.Accounts reported buffer.text)
    {span : Span} {fragment : Fragment} {notice : Option Notice}
    (hafter : buffer.replaceCharacters span fragment = .ok (after, notice)) :
    Settles reported after notice := by
  obtain ⟨_, hwithin, hrest⟩ := exists_of_bind_eq_ok hafter
  obtain ⟨attributes, -, htransact⟩ := exists_of_bind_eq_ok hrest
  have hspan : span.stop ≤ buffer.text.length :=
    Int.ofNat_le.1 (Span.le_of_within_eq_ok (eq_ok_of_leaving hwithin))
  apply settles_transact _ htransact
  intro edited hedited
  obtain ⟨spliced, hsplice, hrecord⟩ := exists_of_bind_eq_ok hedited
  obtain ⟨runs, -, rfl⟩ := exists_runs_of_restyle hsplice
  have hlength : (fragment.text.length : Int) =
      span.length + ((fragment.text.length : Int) - span.length) := by omega
  exact accounts_recordEdit hrecord h (by decide) hlength
    (Diff.replaceSpan buffer.text fragment.text hspan)

theorem settles_setAttributes (h : buffer.pending.Accounts reported buffer.text)
    {span : Span} {attributes : AttributeSet} {notice : Option Notice}
    (hafter : buffer.setAttributes span attributes = .ok (after, notice)) :
    Settles reported after notice := by
  obtain ⟨_, hwithin, htransact⟩ := exists_of_bind_eq_ok hafter
  have hspan : span.stop ≤ buffer.text.length :=
    Int.ofNat_le.1 (Span.le_of_within_eq_ok (eq_ok_of_leaving hwithin))
  apply settles_transact _ htransact
  intro edited hedited
  obtain ⟨restyled, hrestyled, hrecord⟩ := exists_of_bind_eq_ok hedited
  obtain ⟨runs, -, rfl⟩ := exists_runs_of_restyle hrestyled
  exact accounts_recordEdit hrecord h (by decide) (Int.add_zero _).symm
    (Diff.refl buffer.text hspan)

theorem settles_recolorize (h : buffer.pending.Accounts reported buffer.text)
    {notice : Option Notice} (hafter : buffer.recolorize = .ok (after, notice)) :
    Settles reported after notice := by
  have hspan : buffer.whole.stop ≤ buffer.text.length := Nat.le_of_eq (Nat.zero_add _)
  apply settles_transact _ hafter
  intro edited hrecord
  exact accounts_recordEdit hrecord h (by decide) (Int.add_zero _).symm
    (Diff.refl buffer.text hspan)

theorem settles_edit (h : buffer.Accounted reported) {edit : Attempt Edited Edited}
    (hedit : buffer.Edit edit) {notice : Option Notice} (hafter : edit = .ok (after, notice)) :
    Settles reported after notice := by
  cases hedit with
  | replaceCharacters span fragment => exact settles_replaceCharacters h.pending hafter
  | setAttributes span attributes => exact settles_setAttributes h.pending hafter
  | recolorize => exact settles_recolorize h.pending hafter
  | endEditing => exact settles_endEditing h.pending hafter

theorem accounted_change (h : buffer.Accounted reported) (hchange : buffer.Change after) :
    after.Accounted reported := by
  obtain ⟨htext, hpending, hdepth⟩ := hchange.frame
  constructor
  · rw [hpending, htext]
    exact h.pending
  · intro hafter
    rw [hpending]
    exact h.idle (Nat.le_zero.1 (hafter ▸ hdepth))

end Buffer

end MarkupEditor
