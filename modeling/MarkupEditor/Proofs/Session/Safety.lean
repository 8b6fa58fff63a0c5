import MarkupEditor.Proofs.Buffer.Mutation
import MarkupEditor.Proofs.Session.Reached

/-!
# No call finds text and styling apart

Whatever has happened to a buffer, and whoever is in the middle of it, the runs
style exactly the text.  So passes cannot fail, and neither can an edit for any
other reason than its place.
-/

namespace MarkupEditor

namespace Session

/-- In every state that a call can find, the runs are canonical and style as many
characters as the text has.  So a pass succeeds on any text, and an edit, with the
pass at the end of its transaction, is refused for its range at most: never for a
wrong number of values, and never when it has changed something. -/
theorem consistent_of_reached (font : Value) (roles : Roles) {session : Session}
    (h : Reached (new (Buffer.new font roles)) session) :
    session.buffer.runs.Canonical ∧
      session.buffer.runs.length = session.buffer.length ∧
      (∀ react, (execute react .process session).result = .ok .done ∧
        (execute react .colorize session).result =
          .ok (.count (session.buffer.roles.classify session.buffer.text).length)) ∧
      ∀ edit stopped, session.buffer.Edit edit → edit = .error stopped →
        stopped.left = session.buffer.untouched ∧
          ((∃ first stop, stopped.failure = .rangeOutOfBounds first stop session.buffer.length) ∨
            (stopped.failure = .unmatchedEnd ∧ session.buffer.depth = 0)) := by
  have hconsistent : session.buffer.Consistent :=
    keptByBuffers_consistent.reached h (Buffer.consistent_new font roles)
  refine ⟨hconsistent.canonical, hconsistent.length, ?_, ?_⟩
  · intro react
    obtain ⟨colored, hpass, -⟩ := Buffer.exists_colorize hconsistent
    simp only [execute, Outcome.ofPass, hpass, and_self]
  · intro edit stopped hedit hfailed
    exact Buffer.failure_of_edit hconsistent hedit hfailed

/-- A session with an observer that reacts once, by an edit of its own. -/
def echoing : Session :=
  (new (Buffer.new hiddenFont .standard)).observe "echo" [.insert 0 (.plain "<".toList)] 1

/-- The observer finds the text of the edit it is told of, and may edit it in turn. -/
theorem consistent_of_reached_echoing :
    ∃ session, Reached (new (Buffer.new hiddenFont .standard)) session ∧ session.turns = 1 ∧
      session.buffer.text = "b>".toList ∧ session.buffer.runs.length = session.buffer.length := by
  have hobserving : Reached (new (Buffer.new hiddenFont .standard)) echoing :=
    Reached.start.called 0 (.observe "echo" [.insert 0 (.plain "<".toList)] 1)
  have hconsistent : echoing.buffer.Consistent := ⟨RunList.canonical_empty, rfl⟩
  have hfits : (Mutation.replaceCharacters ⟨0, 0⟩ (.plain "b>".toList)).Fits
      echoing.buffer.length := Nat.le_refl 0
  obtain ⟨edited, runs, hmutate, hedited, -⟩ :=
    Buffer.exists_mutate_outermost hconsistent hfits rfl
  have hobservers : edited.observers = [] ++ .named "echo" :: [] := by
    rw [hedited.frame]
    rfl
  have hreacting := hobserving.notified 0 (.replaceCharacters _ _)
    (congrArg Attempt.state hmutate) hobservers rfl rfl
  exact ⟨_, hreacting, rfl, hedited.text,
    (consistent_of_reached hiddenFont .standard hreacting).2.1⟩

end Session

end MarkupEditor
