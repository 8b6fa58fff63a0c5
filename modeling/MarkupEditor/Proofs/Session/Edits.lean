import MarkupEditor.Proofs.Buffer.Mutation

/-!
# Commands that edit

Several commands edit, and each gives the place of its edit in its own way.  What
a session does with them is the same: an edit is refused for its place, or it is
made in a transaction and this is settled.  A block is settled like an edit.
-/

namespace MarkupEditor

/-- What a command asks to be done to a text of some length, if it edits: the
place may not even be a span. -/
def Command.mutation? (length : Nat) : Command → Option (Except Failure Mutation)
  | .replace coordinates fragment => some do
    let span ← Span.ofCoordinates coordinates
    pure (.replaceCharacters span fragment)
  | .setAttributes coordinates attributes => some do
    let span ← Span.ofCoordinates coordinates
    pure (.setAttributes span attributes)
  | .delete coordinates => some do
    let span ← Span.ofCoordinates coordinates
    pure (.replaceCharacters span (.plain []))
  | .insert offset fragment => some do
    let span ← Span.ofInts offset 0
    pure (.replaceCharacters span fragment)
  | .append fragment => some (.ok (.replaceCharacters ⟨length, 0⟩ fragment))
  | .setText fragment => some (.ok (.replaceCharacters (.whole length) fragment))
  | .recolorize => some (.ok .recolorize)
  | _ => none

/-- The commands that edit in a transaction of their own. -/
def Command.Edits : Command → Prop
  | .replace _ _ | .setAttributes _ _ | .delete _ | .insert _ _ | .append _ | .setText _
  | .recolorize => True
  | _ => False

theorem Command.Edits.exists_mutation? {command : Command} (h : command.Edits) (length : Nat) :
    ∃ given, command.mutation? length = some given := by
  cases command with
  | replace | setAttributes | delete | insert | append | setText | recolorize => exact ⟨_, rfl⟩
  | _ => exact h.elim

namespace Session

variable {react : React} {session : Session} {command : Command}

theorem execute_edit {given : Except Failure Mutation}
    (h : command.mutation? session.buffer.length = some given) :
    execute react command session = .ofEdit react session
      (leaving session.buffer.untouched given >>= session.buffer.mutate) := by
  have hplace (place : Except Failure Span) (mutation : Span → Mutation) :
      Outcome.ofEdit react session (leaving session.buffer.untouched place >>= fun span =>
          session.buffer.mutate (mutation span)) =
        Outcome.ofEdit react session
          (leaving session.buffer.untouched (place >>= fun span => pure (mutation span)) >>=
            session.buffer.mutate) := by
    cases place <;> rfl
  cases command with
  | replace coordinates fragment =>
      cases h
      exact hplace _ (.replaceCharacters · fragment)
  | setAttributes coordinates attributes =>
      cases h
      exact hplace _ (.setAttributes · attributes)
  | delete coordinates =>
      cases h
      exact hplace _ (.replaceCharacters · (.plain []))
  | insert offset fragment =>
      cases h
      exact hplace _ (.replaceCharacters · fragment)
  | append fragment =>
      cases h
      rfl
  | setText fragment =>
      cases h
      rfl
  | recolorize =>
      cases h
      rfl
  | _ => cases h

/-- An edit that fits is settled with the end of its transaction. -/
theorem exists_execute_settled (react : React) (h : session.buffer.Consistent)
    {mutation : Mutation}
    (hmutation : command.mutation? session.buffer.length = some (.ok mutation))
    (hfits : mutation.Fits session.buffer.length) :
    ∃ edited, session.buffer.Mutated mutation edited ∧
      execute react command session = .ofEdit react session edited.endEditing := by
  obtain ⟨edited, hmutate, hedited⟩ := Buffer.exists_mutate h hfits
  refine ⟨edited, hedited, ?_⟩
  rw [execute_edit hmutation, ← hmutate]
  rfl

/-- An edit with no place in the text is refused. -/
theorem exists_execute_refused (react : React) {given : Except Failure Mutation}
    (h : command.mutation? session.buffer.length = some given)
    (hrefused : ∀ mutation, given = .ok mutation → ¬ mutation.Fits session.buffer.length) :
    ∃ failure, execute react command session = ⟨session, [], .error failure⟩ := by
  rw [execute_edit h]
  cases given with
  | error failure => exact ⟨failure, rfl⟩
  | ok mutation =>
      obtain ⟨first, stop, hmutate⟩ := Buffer.mutate_eq_error (hrefused mutation rfl)
      change ∃ failure, Outcome.ofEdit react session (session.buffer.mutate mutation) = _
      rw [hmutate]
      exact ⟨_, rfl⟩

/-- An edit that is not refused has a place in the text. -/
theorem exists_mutation_of_succeeds (hedits : command.Edits)
    (h : (execute react command session).failure? = none) :
    ∃ mutation, command.mutation? session.buffer.length = some (.ok mutation) ∧
      mutation.Fits session.buffer.length := by
  obtain ⟨given, hgiven⟩ := hedits.exists_mutation? session.buffer.length
  by_contra hnone
  have hrefused : ∀ mutation, given = .ok mutation →
      ¬ mutation.Fits session.buffer.length := by
    rintro mutation rfl hfits
    exact hnone ⟨mutation, hgiven, hfits⟩
  obtain ⟨failure, hexecute⟩ := exists_execute_refused react hgiven hrefused
  rw [hexecute] at h
  cases h

/-- Inside of a transaction an edit waits and nobody is notified. -/
theorem exists_execute_nested (react : React) (h : session.buffer.Consistent)
    {mutation : Mutation}
    (hmutation : command.mutation? session.buffer.length = some (.ok mutation))
    (hfits : mutation.Fits session.buffer.length) (hdepth : session.buffer.depth ≠ 0) :
    ∃ edited, session.buffer.Mutated mutation edited ∧
      execute react command session =
        ⟨{ session with buffer := { edited with depth := session.buffer.depth } }, [],
          .ok .done⟩ := by
  obtain ⟨edited, hedited, hexecute⟩ := exists_execute_settled react h hmutation hfits
  have hopened : edited.depth = session.buffer.depth + 1 := by rw [hedited.frame]
  refine ⟨edited, hedited, ?_⟩
  rw [hexecute, Buffer.endEditing_quiet hopened (.inl hdepth)]
  rfl

/-- A block that nothing refuses answers with its replies and is settled at its end. -/
theorem execute_block {body : List Command} {ran : Session} {replies : List Reply}
    (h : executeAll react body { session with buffer := session.buffer.beginEditing } =
      (ran, replies, none)) :
    (execute react (.editing body) session).inner = replies ∧
      (execute react (.editing body) session).session =
        (ran.settle react ran.buffer.endEditing).1 := by
  simp only [execute, h]
  split <;> exact ⟨rfl, rfl⟩

end Session

end MarkupEditor
