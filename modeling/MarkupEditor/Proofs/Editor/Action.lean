import MarkupEditor.Editor.Keys

/-!
# What keys ask for

A key inserts its own character or is bound to an action; one key alone asks to quit and
one to save.
-/

namespace MarkupEditor

namespace Action

theorem ofKey?_cases {key : Int} {action : Action} (h : ofKey? key = some action) :
    (∃ c : Char, 32 ≤ c.toNat ∧ action = .insert [c]) ∨ (key, action) ∈ bindings := by
  rw [ofKey?] at h
  split at h
  · next hprintable =>
    have hvalid : key.toNat.isValidChar := .inl (by omega)
    have hcode : (Char.ofNat key.toNat).toNat = key.toNat := by
      rw [Char.ofNat, dif_pos hvalid]
      rfl
    exact .inl ⟨Char.ofNat key.toNat, by omega, (Option.some.inj h).symm⟩
  · obtain ⟨earlier, later, hbindings, -⟩ := List.lookup_eq_some_iff.1 h
    refine .inr ?_
    rw [hbindings]
    exact List.mem_append_right _ List.mem_cons_self

theorem key_eq_of_quit {key : Int} (h : ofKey? key = some .quit) : key = Key.quit := by
  obtain ⟨c, -, hinsert⟩ | hmem := ofKey?_cases h
  · cases hinsert
  · simpa [bindings] using hmem

theorem key_eq_of_save {key : Int} (h : ofKey? key = some .save) : key = Key.save := by
  obtain ⟨c, -, hinsert⟩ | hmem := ofKey?_cases h
  · cases hinsert
  · simpa [bindings] using hmem

theorem insert_cases {key : Int} {text : List Char} (h : ofKey? key = some (.insert text)) :
    (∃ c : Char, 32 ≤ c.toNat ∧ text = [c]) ∨ text = ['\n'] ∨ text = tabText := by
  obtain ⟨c, hc, hinsert⟩ | hmem := ofKey?_cases h
  · cases hinsert
    exact .inl ⟨c, hc, rfl⟩
  · have hbound : key = Key.enter ∧ text = ['\n'] ∨ key = 10 ∧ text = ['\n'] ∨
        key = 9 ∧ text = tabText := by
      simpa [bindings] using hmem
    obtain ⟨-, hfeed⟩ | ⟨-, hfeed⟩ | ⟨-, htab⟩ := hbound
    · exact .inr (.inl hfeed)
    · exact .inr (.inl hfeed)
    · exact .inr (.inr htab)

/-- A key inserts one line feed or none. -/
theorem text_of_insert {key : Int} {text : List Char} (h : ofKey? key = some (.insert text)) :
    text = ['\n'] ∨ '\n' ∉ text := by
  obtain ⟨c, hc, rfl⟩ | rfl | rfl := insert_cases h
  · right
    intro hfeed
    rw [← List.mem_singleton.1 hfeed] at hc
    exact absurd hc (by decide)
  · exact .inl rfl
  · exact .inr (by decide)

/-- No key inserts a carriage return. -/
theorem carriageReturn_not_mem_of_insert {key : Int} {text : List Char}
    (h : ofKey? key = some (.insert text)) : '\r' ∉ text := by
  obtain ⟨c, hc, rfl⟩ | rfl | rfl := insert_cases h
  · intro hreturn
    rw [← List.mem_singleton.1 hreturn] at hc
    exact absurd hc (by decide)
  · decide
  · decide

end Action

end MarkupEditor
