import MarkupEditor.Proofs.Session.Edits

/-!
# Observers that only look

The reactions of passive observers ask, make notes and watch who else observes.
They do not touch the text, its styling or the settings, so a notification of
passive observers leaves no more than notes, whoever comes and goes meanwhile.
-/

namespace MarkupEditor

mutual

/-- Commands that change no more of a buffer than who observes it, now and through
the reactions that they prepare. -/
def Command.Passive : Command → Prop
  | .attributesAt _ | .length | .palette | .exportAs _ | .restore _ | .paste _
  | .unobserve _ => True
  | .editing body => passiveCommands body
  | .observe _ reaction _ => passiveCommands reaction
  | _ => False

def passiveCommands : List Command → Prop
  | [] => True
  | command :: rest => command.Passive ∧ passiveCommands rest

end

mutual

theorem Command.Passive.reread (turn : Nat) :
    ∀ command : Command, command.Passive → (command.reread turn).Passive := by
  intro command h
  cases command with
  | editing body => exact passiveCommands_reread turn body h
  | observe name reaction times => exact passiveCommands_reread turn reaction h
  | attributesAt | length | palette | exportAs | restore | paste | unobserve => trivial
  | _ => exact h.elim

theorem passiveCommands_reread (turn : Nat) :
    ∀ commands : List Command, passiveCommands commands →
      passiveCommands (rereadCommands turn commands)
  | [], _ => trivial
  | command :: rest, h =>
    ⟨Command.Passive.reread turn command h.1, passiveCommands_reread turn rest h.2⟩

end

namespace Session

/-- The events that a journal reports, the latest first. -/
def events : List Entry → List Event
  | [] => []
  | .processed event _ :: earlier => event :: events earlier
  | _ :: earlier => events earlier

/-- A session whose observers, all that were ever registered, only look. -/
def Passive (session : Session) : Prop := ∀ known ∈ session.reactions, passiveCommands known.2.body

/-- What passive commands leave of a session. -/
structure Watched (before after : Session) : Prop where
  buffer : after.buffer = { before.buffer with observers := after.buffer.observers }
  events : events after.journal = events before.journal
  passive : after.Passive

variable {react : React} {session : Session}

theorem Passive.watched (h : session.Passive) : Watched session session := ⟨rfl, rfl, h⟩

theorem Watched.trans {first second third : Session} (h : Watched first second)
    (h' : Watched second third) : Watched first third where
  buffer := by
    rw [h'.buffer, h.buffer]
  events := h'.events.trans h.events
  passive := h'.passive

/-- A block in which nothing is edited ends quietly. -/
theorem watched_block (hmask : session.buffer.pending.mask = 0) {ran : Session}
    (h : Watched { session with buffer := session.buffer.beginEditing } ran) :
    Watched session (execute react .endEditing ran).session := by
  have hdepth : ran.buffer.depth = session.buffer.depth + 1 := by rw [h.buffer]; rfl
  have hquiet : ran.buffer.pending.mask = 0 := by
    rw [h.buffer]
    exact hmask
  rw [execute, session_ofEdit, Buffer.endEditing_quiet hdepth (.inr hquiet)]
  refine ⟨?_, h.events, h.passive⟩
  change { ran.buffer with depth := session.buffer.depth } = _
  rw [h.buffer]
  rfl

/-- Blocks apart, it does not matter what is pending. -/
theorem watched_look (react : React) {command : Command} (hpassive : command.Passive)
    (hblock : ∀ body, command ≠ .editing body) (h : session.Passive) :
    Watched session (execute react command session).session := by
  cases command with
  | editing body => exact absurd rfl (hblock body)
  | observe name reaction times =>
      refine ⟨rfl, rfl, ?_⟩
      intro known hknown
      rcases mem_reactions_observe hknown with hknown | hnew
      · exact h known hknown
      · rw [hnew]
        exact hpassive
  | attributesAt | length | palette | exportAs | restore | paste | unobserve =>
      exact ⟨rfl, rfl, h⟩
  | _ => exact hpassive.elim

mutual

theorem watched_execute :
    ∀ (command : Command) {session : Session}, command.Passive → session.Passive →
      session.buffer.pending.mask = 0 →
        Watched session (execute react command session).session := by
  intro command session hpassive h hmask
  cases command with
  | editing body =>
      rw [session_execute_editing]
      have hopened : Passive { session with buffer := session.buffer.beginEditing } := h
      exact watched_block hmask (watched_executeAll body hpassive hopened hmask)
  | _ => exact watched_look react hpassive nofun h

theorem watched_executeAll :
    ∀ (commands : List Command) {session : Session}, passiveCommands commands → session.Passive →
      session.buffer.pending.mask = 0 → Watched session (executeAll react commands session).1
  | [], _, _, h, _ => h.watched
  | command :: rest, session, hpassive, h, hmask => by
      have hexecuted : Watched session (execute react command session).session :=
        watched_execute command hpassive.1 h hmask
      rw [executeAll]
      split
      · exact hexecuted
      · apply hexecuted.trans
        apply watched_executeAll rest hpassive.2 hexecuted.passive
        rw [hexecuted.buffer]
        exact hmask

end

theorem watched_reactWithin (bound : Nat) {body : List Command} (hbody : passiveCommands body)
    (h : session.Passive) (hmask : session.buffer.pending.mask = 0) :
    Watched session (reactWithin bound body session).1 := by
  cases bound with
  | zero => exact h.watched
  | succ bound => exact watched_executeAll body hbody h hmask

theorem Passive.takeReaction (h : session.Passive) {observer : Observer} {body : List Command}
    {used : Session} (htaken : session.takeReaction observer = some (body, used)) :
    passiveCommands body ∧ Watched session used := by
  obtain ⟨hbuffer, hjournal, ⟨known, hknown, rfl⟩, hused⟩ := exists_of_takeReaction htaken
  refine ⟨passiveCommands_reread _ _ (h known hknown), by rw [hbuffer], by rw [hjournal], ?_⟩
  intro other hother
  obtain ⟨origin, horigin, hsame⟩ := hused other hother
  rw [hsame]
  exact h origin horigin

/-- A notification of passive observers is nothing but watched. -/
theorem watched_deliver (bound : Nat) (event : Event) (observers : List Observer)
    (h : session.Passive) (hmask : session.buffer.pending.mask = 0) :
    Watched session (deliver (reactWithin bound) event observers session).1 := by
  apply deliver_keeps (Watched session) _ _ observers h.watched
  · intro told observer hwatched
    exact ⟨hwatched.buffer, hwatched.events, hwatched.passive⟩
  · intro told observer body used hwatched htaken
    obtain ⟨hbody, hused⟩ := hwatched.passive.takeReaction htaken
    have hready := hwatched.trans hused
    apply hready.trans
    apply watched_reactWithin bound hbody hused.passive
    rw [hready.buffer]
    exact hmask

/-! ### Edits that passive observers are told of -/

/-- The end of an outermost transaction runs a pass and is reported by one event. -/
theorem exists_settle_outermost (bound : Nat) {edited : Buffer} (h : edited.Consistent)
    (hdepth : edited.depth = 1) (hmask : edited.pending.mask ≠ 0) (hpassive : session.Passive) :
    ∃ runs observers, edited.Passed runs ∧
      (session.settle (reactWithin bound) edited.endEditing).1.buffer = { edited with
        depth := 0, pending := .none, runs := runs, observers := observers } ∧
      events (session.settle (reactWithin bound) edited.endEditing).1.journal =
        edited.pending.event :: events session.journal ∧
      (session.settle (reactWithin bound) edited.endEditing).1.Passive := by
  obtain ⟨runs, hend, hpassed⟩ := Buffer.exists_endEditing_outermost h hdepth hmask
  let processed := session.completed { edited with depth := 0, pending := .none, runs := runs }
    ⟨edited.pending.event, edited.observers, (edited.roles.classify edited.text).length⟩
  have hprocessed : processed.Passive := hpassive
  have hwatched := watched_deliver bound edited.pending.event edited.observers hprocessed rfl
  rw [hend]
  exact ⟨runs, _, hpassed, hwatched.buffer, hwatched.events, hwatched.passive⟩

/-- An edit outside of transactions. -/
theorem exists_execute_outermost (bound : Nat) (h : session.buffer.Consistent)
    (hpassive : session.Passive) {command : Command} {mutation : Mutation}
    (hmutation : command.mutation? session.buffer.length = some (.ok mutation))
    (hfits : mutation.Fits session.buffer.length) (hdepth : session.buffer.depth = 0) :
    ∃ edited runs observers after, session.buffer.Mutated mutation edited ∧
      edited.Passed runs ∧ (execute (reactWithin bound) command session).session = after ∧
      after.buffer = { edited with
        depth := 0, pending := .none, runs := runs, observers := observers } ∧
      events after.journal = edited.pending.event :: events session.journal ∧
      after.Passive := by
  obtain ⟨edited, hedited, hexecute⟩ :=
    exists_execute_settled (reactWithin bound) h hmutation hfits
  have hopened : edited.depth = 1 := by rw [hedited.frame, hdepth]
  obtain ⟨runs, observers, hpassed, hbuffer, hevents, hafter⟩ :=
    exists_settle_outermost bound hedited.consistent hopened hedited.mask_ne_zero hpassive
  refine ⟨edited, runs, observers, _, hedited, hpassed, ?_, hbuffer, hevents, hafter⟩
  rw [hexecute, session_ofEdit]

end Session

end MarkupEditor
