import MarkupEditor.Failure

/-!
# Attempts

A change of a state either succeeds or is given up.  A change that is given up may
have been half done by then; so it says not only why, but also what it has left.
-/

namespace MarkupEditor

/-- A change that has been given up: why, and what it has left. -/
structure Stopped (σ : Type) where
  failure : Failure
  left : σ

/-- What an attempt to change a state comes to. -/
abbrev Attempt (σ α : Type) := Except (Stopped σ) α

variable {σ τ α β : Type}

/-- Asks for something on the way.  A refusal leaves the state as it is. -/
def leaving (state : σ) (answer : Except Failure α) : Attempt σ α :=
  answer.mapError fun failure => ⟨failure, state⟩

/-- Changes a part of a state. -/
def onPart (put : σ → τ) : Attempt σ α → Attempt τ α :=
  Except.mapError fun stopped => ⟨stopped.failure, put stopped.left⟩

namespace Attempt

/-- What there is after an attempt, be it that it has succeeded or not. -/
def state : Attempt σ σ → σ
  | .ok state => state
  | .error stopped => stopped.left

end Attempt

@[simp]
theorem leaving_pure (state : σ) (answer : α) : leaving state (pure answer) = pure answer := rfl

/-- What has succeeded on the way has been answered. -/
theorem eq_ok_of_leaving {state : σ} {answer : Except Failure α} {value : α}
    (h : leaving state answer = .ok value) : answer = .ok value := by
  cases answer with
  | error failure => cases h
  | ok answer => exact congrArg Except.ok (Except.ok.inj h)

theorem leaving_bind_eq_of_eq_ok {state : σ} {answer : Except Failure β} {value : β}
    (h : answer = .ok value) (next : β → Attempt σ α) :
    leaving state answer >>= next = next value := by
  rw [h]
  rfl

/-- A change of a part has succeeded when the change has. -/
theorem eq_ok_of_onPart {put : σ → τ} {change : Attempt σ α} {value : α}
    (h : onPart put change = .ok value) : change = .ok value := by
  cases change with
  | error stopped => cases h
  | ok changed => exact congrArg Except.ok (Except.ok.inj h)

namespace Attempt

/-- What is so after the first part of a change and kept by the second one is so after
the change, wherever it is given up. -/
theorem holds_bind (Holds : σ → Prop) {first : Attempt σ σ} {next : σ → Attempt σ σ}
    (hfirst : Holds first.state)
    (hnext : ∀ {state}, first = .ok state → Holds state → Holds (next state).state) :
    Holds (first >>= next).state := by
  cases first with
  | error stopped => exact hfirst
  | ok state => exact hnext rfl hfirst

/-- What is so beforehand is still so when something asked for is refused. -/
theorem holds_leaving_bind (Holds : σ → Prop) {first : σ} {answer : Except Failure β}
    {next : β → Attempt σ σ} (h : Holds first)
    (hnext : ∀ {value}, answer = .ok value → Holds (next value).state) :
    Holds (leaving first answer >>= next).state := by
  cases answer with
  | error failure => exact h
  | ok value => exact hnext rfl

end Attempt

end MarkupEditor
