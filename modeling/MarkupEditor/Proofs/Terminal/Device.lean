import MarkupEditor.Terminal.Screen
import Mathlib.Tactic.Common

/-!
# What a device can show

A console loses what does not fit into the eight bits that it has for the number of a color
pair, and refuses a text with a NUL character.  A recorder does neither.
-/

namespace MarkupEditor.Device

variable {device : Device} {text text' : List Char}

/-- Eight bits hold the first 256 numbers. -/
theorem pair_eq (device : Device) {number : Nat} (h : number < 256) :
    device.pair number = number * 256 := by
  cases device with
  | console => exact congrArg (· * 256) (Nat.mod_eq_of_lt h)
  | recorder => rfl

/-- The first number that eight bits lose is 256. -/
theorem pair_eq_normal_iff {number : Nat} (h : 0 < number) :
    device.pair number = Look.normal ↔ device = .console ∧ number % 256 = 0 := by
  cases device with
  | console =>
      have hshift : number % 256 * 256 = 0 ↔ number % 256 = 0 := by omega
      exact hshift.trans (and_iff_right rfl).symm
  | recorder =>
      refine iff_of_false ?_ nofun
      intro hnormal
      have hshift : number * 256 = 0 := hnormal
      omega

theorem takes_iff : device.takes text = true ↔ device = .console → '\x00' ∉ text := by
  cases device with
  | console => simp [takes]
  | recorder => exact iff_of_true rfl nofun

theorem takes_nil (device : Device) : device.takes [] = true :=
  takes_iff.2 fun _ => List.not_mem_nil

theorem takes_append (device : Device) (text text' : List Char) :
    device.takes (text ++ text') = (device.takes text && device.takes text') := by
  rw [Bool.eq_iff_iff, Bool.and_eq_true, takes_iff, takes_iff, takes_iff, ← forall_and]
  simp only [List.mem_append, not_or]

/-- What is made of characters of a text and blanks is taken as the text is. -/
theorem takes_of_subset (h : device.takes text = true)
    (hsubset : ∀ character ∈ text', character ∈ text ∨ character = ' ') :
    device.takes text' = true := by
  rw [takes_iff] at h ⊢
  intro hconsole hnul
  obtain hmem | hblank := hsubset _ hnul
  · exact h hconsole hmem
  · exact absurd hblank (by decide)

end MarkupEditor.Device
