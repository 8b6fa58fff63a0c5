import MarkupEditor.Proofs.Storage.Utf8
import MarkupEditor.Storage.TextFile

/-!
# What is written is read

A text that was read has no carriage return, whatever the bytes.  So the texts without one
are those that are read as they were written.
-/

namespace MarkupEditor.TextFile

theorem carriageReturn_not_mem_unifyLineEnds (text : List Char) :
    '\r' ∉ unifyLineEnds text := by
  induction text using unifyLineEnds.induct with
  | case1 => exact List.not_mem_nil
  | case2 rest ih =>
      rw [unifyLineEnds, List.mem_cons, not_or]
      exact ⟨by decide, ih⟩
  | case3 c rest hpair ih =>
      have hhead : '\r' ≠ if c = '\r' then '\n' else c := by
        split
        · decide
        · next hother => exact Ne.symm hother
      rw [unifyLineEnds.eq_3 c rest hpair, List.mem_cons, not_or]
      exact ⟨hhead, ih⟩

theorem unifyLineEnds_of_not_mem {text : List Char} (h : '\r' ∉ text) :
    unifyLineEnds text = text := by
  induction text using unifyLineEnds.induct with
  | case1 => rfl
  | case2 rest => exact absurd List.mem_cons_self h
  | case3 c rest hpair ih =>
      rw [List.mem_cons, not_or] at h
      rw [unifyLineEnds.eq_3 c rest hpair, if_neg (Ne.symm h.1), ih h.2]

theorem carriageReturn_not_mem_read (bytes : List UInt8) : '\r' ∉ read bytes :=
  carriageReturn_not_mem_unifyLineEnds _

/-- The texts that are read as they were written. -/
theorem read_write_iff (text : List Char) : read (write text) = text ↔ '\r' ∉ text := by
  have hread : read (write text) = unifyLineEnds text :=
    congrArg unifyLineEnds (Utf8.decode_encode text)
  constructor
  · intro h
    rw [← h]
    exact carriageReturn_not_mem_read _
  · intro h
    exact hread.trans (unifyLineEnds_of_not_mem h)

end MarkupEditor.TextFile
