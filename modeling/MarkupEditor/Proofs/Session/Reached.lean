import MarkupEditor.Proofs.Session.Invariant

/-!
# Every state that a call can find

Calls reach a buffer from outside, from inside of a block, and from observers in
the middle of a notification, which may in turn edit, nest transactions and be
refused.  A state is reached by a call, or is the one that an observer finds when
it starts to react.
-/

namespace MarkupEditor

namespace Session

/-- The sessions that calls lead to, after any call and before any reaction.  The
commands of a block and those of a reaction are calls like all others; a call may
be refused, and a reaction that is refused ends the notification. -/
inductive Reached (start : Session) : Session → Prop
  | start : Reached start start
  | called {session : Session} (h : Reached start session) (bound : Nat) (command : Command) :
      Reached start (execute (reactWithin bound) command session).session
  | notified {session told used : Session} (h : Reached start session) (bound : Nat)
      {edit : Attempt Edited Edited} (hedit : session.buffer.Edit edit)
      {buffer : Buffer} {notice : Notice} (hresult : edit.state = (buffer, some notice))
      {earlier later : List Observer} {observer : Observer}
      (hobservers : notice.observers = earlier ++ observer :: later)
      (htold : deliver (reactWithin bound) notice.event earlier
        (session.completed buffer notice) = (told, none))
      {body : List Command}
      (htaken : (told.note (.notified observer notice.event)).takeReaction observer =
        some (body, used)) :
      Reached start used

/-- The commands of a run are calls. -/
theorem reached_runAll {start session : Session} (h : Reached start session)
    (commands : List Command) : Reached start (session.runAll commands) := by
  induction commands generalizing session with
  | nil => exact h
  | cons command rest ih => exact ih (h.called _ command)

/-- What is kept by everything that happens to a buffer holds in every state. -/
theorem KeptByBuffers.reached {Holds : Buffer → Prop} (hkept : KeptByBuffers Holds)
    {start session : Session} (hreached : Reached start session) (h : Holds start.buffer) :
    Holds session.buffer := by
  induction hreached with
  | start => exact h
  | called hreached bound command ih => exact hkept.execute bound command ih
  | @notified session told used hreached bound edit hedit buffer notice hresult earlier later
      observer hobservers htold body htaken ih =>
      have hcompleted : Holds (session.completed buffer notice).buffer := by
        have hedited := hkept.edit hedit ih
        rwa [hresult] at hedited
      have htoldHolds : Holds (deliver (Session.reactWithin bound) notice.event earlier
          (session.completed buffer notice)).1.buffer :=
        deliver_keeps (fun session => Holds session.buffer) id
          (fun h htaken =>
            hkept.reactWithin bound _ ((takeReaction_buffer htaken).symm ▸ h))
          earlier hcompleted
      rw [htold] at htoldHolds
      exact (takeReaction_buffer htaken).symm ▸ htoldHolds

end Session

end MarkupEditor
