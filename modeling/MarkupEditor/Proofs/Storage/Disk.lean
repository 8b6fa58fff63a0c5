import MarkupEditor.Storage.Disk

/-!
# What a disk refuses

A disk refuses a path for what it finds, or does not find, on the way.  Only a path with
a character that no name can hold is refused for another reason: it is never followed.
-/

namespace MarkupEditor

/-- Whether a path has a character that no name can hold. -/
def Path.HasNul (path : String) : Prop := '\x00' ∈ path.toList

/-- A reason for which a disk refuses a path. -/
def Failure.Refuses (failure : Failure) (path : String) : Prop :=
  failure.isOfDisk = true ∨ (failure = .nulInPath ∧ Path.HasNul path)

namespace Disk

variable {disk : Disk} {path : String} {failure : Failure}

theorem isEmpty_of_check (h : Path.check path = .ok ()) : path.isEmpty = false := by
  rw [Path.check] at h
  split at h
  · cases h
  · split at h
    · cases h
    · next hname => exact Bool.eq_false_iff.2 hname

theorem isEmpty_of_read {bytes : List UInt8} (h : disk.read path = .ok bytes) :
    path.isEmpty = false := by
  obtain ⟨target, htarget, -⟩ := exists_of_bind_eq_ok h
  obtain ⟨_, hcheck, -⟩ := exists_of_bind_eq_ok htarget
  exact isEmpty_of_check hcheck

end Disk

end MarkupEditor
