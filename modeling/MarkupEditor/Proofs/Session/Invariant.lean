import MarkupEditor.Proofs.Session.Effect

/-!
# Invariants of sessions

What every effect of a command keeps holds after every run: the induction is on
the nesting of blocks inside of a command, and on the nesting of reactions
inside of a notification.
-/

namespace MarkupEditor

/-- A buffer after a pass, be it given up or not. -/
def Buffer.afterPass (buffer : Buffer) : Buffer := Attempt.state (buffer.colorize.map Prod.fst)

mutual

/-- Every command in a command that is no block itself is allowed. -/
def Command.Every (allowed : Command → Prop) : Command → Prop
  | .editing body => everyCommand allowed body
  | command => allowed command

def everyCommand (allowed : Command → Prop) : List Command → Prop
  | [] => True
  | command :: rest => command.Every allowed ∧ everyCommand allowed rest

end

mutual

theorem Command.every_true : ∀ command : Command, command.Every fun _ => True := by
  intro command
  cases command with
  | editing body => exact everyCommand_true body
  | _ => trivial

theorem everyCommand_true : ∀ commands : List Command, everyCommand (fun _ => True) commands
  | [] => trivial
  | command :: rest => ⟨command.every_true, everyCommand_true rest⟩

end

namespace Session

variable {react : React}

section

variable (Holds : Session → Prop) {allowed : Command → Prop}

mutual

/-- A block keeps what the commands in it and both its ends keep. -/
theorem execute_keeps (hbegin : allowed .beginEditing) (hend : allowed .endEditing)
    (hstep : ∀ {session command}, allowed command → (∀ body, command ≠ .editing body) →
      Holds session → Holds (execute react command session).session) :
    ∀ (command : Command) {session : Session}, command.Every allowed → Holds session →
      Holds (execute react command session).session := by
  intro command session hevery h
  cases command with
  | editing body =>
      rw [session_execute_editing]
      have hopened : Holds (execute react .beginEditing session).session := hstep hbegin nofun h
      exact hstep hend nofun (executeAll_keeps hbegin hend hstep body hevery hopened)
  | _ => exact hstep hevery nofun h

theorem executeAll_keeps (hbegin : allowed .beginEditing) (hend : allowed .endEditing)
    (hstep : ∀ {session command}, allowed command → (∀ body, command ≠ .editing body) →
      Holds session → Holds (execute react command session).session) :
    ∀ (commands : List Command) {session : Session}, everyCommand allowed commands →
      Holds session → Holds (executeAll react commands session).1
  | [], _, _, h => h
  | command :: rest, session, hevery, h => by
      have hexecuted := execute_keeps hbegin hend hstep command hevery.1 h
      rw [executeAll]
      split
      · exact hexecuted
      · exact executeAll_keeps hbegin hend hstep rest hevery.2 hexecuted

end

/-- A notification keeps what telling one observer and running its reaction keep. -/
theorem deliver_keeps {event : Event}
    (hnotified : ∀ {session observer}, Holds session →
      Holds (session.note (.notified observer event)))
    (hreact : ∀ {session observer body used}, Holds session →
      session.takeReaction observer = some (body, used) → Holds (react body used).1)
    (observers : List Observer) {session : Session} (h : Holds session) :
    Holds (deliver react event observers session).1 := by
  induction observers generalizing session with
  | nil => exact h
  | cons observer rest ih =>
      have htold : Holds (session.note (.notified observer event)) := hnotified h
      rw [deliver]
      split
      · exact ih htold
      · next body used htaken =>
        have hreacted := hreact htold htaken
        split
        · next hresult =>
          rw [hresult] at hreacted
          exact ih hreacted
        · next hresult => rwa [hresult] at hreacted

/-- A command keeps what its effects keep, whatever the reactions do. -/
theorem reactWithin_keeps
    (hstep : ∀ {react : React}, (∀ body {session}, Holds session → Holds (react body session).1) →
      ∀ {session command after}, Effect react session command after →
        Holds session → Holds after)
    (bound : Nat) (body : List Command) {session : Session} (h : Holds session) :
    Holds (reactWithin bound body session).1 := by
  induction bound generalizing body session with
  | zero => exact h
  | succ bound ih =>
      exact executeAll_keeps Holds trivial trivial
        (fun _ hblock => hstep (fun body _ h => ih body h) (effect_execute hblock)) body
        (everyCommand_true body) h

theorem runAll_keeps
    (hstep : ∀ {react : React}, (∀ body {session}, Holds session → Holds (react body session).1) →
      ∀ {session command after}, Effect react session command after →
        Holds session → Holds after)
    (commands : List Command) {session : Session} (h : Holds session) :
    Holds (session.runAll commands) := by
  induction commands generalizing session with
  | nil => exact h
  | cons command rest ih =>
      apply ih
      exact execute_keeps Holds trivial trivial
        (fun _ hblock => hstep (fun body _ h => reactWithin_keeps Holds hstep _ body h)
          (effect_execute hblock))
        command command.every_true h

end

/-! ### What observers react with -/

theorem mem_reactions_observe {session : Session} {name : String} {reaction : List Command}
    {times : Nat} {known : String × Reaction}
    (h : known ∈ (session.observe name reaction times).reactions) :
    known ∈ session.reactions ∨ known.2.body = reaction := by
  rw [observe] at h
  split at h
  · exact .inl h
  · rcases List.mem_append.1 h with h | hnew
    · exact .inl h
    · rw [List.mem_singleton.1 hnew]
      exact .inr rfl

/-- A reaction is one that an observer was registered with, read anew; taking it up
leaves the buffer and the journal as they are. -/
theorem exists_of_takeReaction {session used : Session} {observer : Observer}
    {body : List Command} (h : session.takeReaction observer = some (body, used)) :
    used.buffer = session.buffer ∧ used.journal = session.journal ∧
      (∃ known ∈ session.reactions, body = rereadCommands (session.turns + 1) known.2.body) ∧
      ∀ known ∈ used.reactions, ∃ origin ∈ session.reactions, known.2.body = origin.2.body := by
  unfold takeReaction at h
  split at h
  · cases h
  · next name =>
    split at h
    · next known remaining hlookup =>
      have hmem : (name, (⟨known, remaining + 1⟩ : Reaction)) ∈ session.reactions := by
        obtain ⟨left, right, hreactions, -⟩ := List.lookup_eq_some_iff.1 hlookup
        rw [hreactions]
        exact List.mem_append_right left (List.mem_cons_self ..)
      cases h
      refine ⟨rfl, rfl, ⟨_, hmem, rfl⟩, ?_⟩
      intro other hother
      obtain ⟨origin, horigin, rfl⟩ := List.mem_map.1 hother
      by_cases hname : origin.1 = name
      · refine ⟨_, hmem, ?_⟩
        simp only [hname, if_true]
      · refine ⟨origin, horigin, ?_⟩
        simp only [hname, if_false]
    · cases h

theorem takeReaction_buffer {session used : Session} {observer : Observer} {body : List Command}
    (h : session.takeReaction observer = some (body, used)) : used.buffer = session.buffer :=
  (exists_of_takeReaction h).1

/-! ### Invariants of the buffer alone -/

/-- What every edit, change, record, pass and registration keeps of a buffer, be they
given up or not, holds in every session. -/
structure KeptByBuffers (Holds : Buffer → Prop) : Prop where
  edit : ∀ {buffer edit}, buffer.Edit edit → Holds buffer → Holds edit.state.1
  change : ∀ {buffer after}, buffer.Change after → Holds buffer → Holds after
  record : ∀ {buffer : Buffer} {mask span delta}, Holds buffer →
    Holds (buffer.recordEdit mask span delta).state
  pass : ∀ {buffer : Buffer}, Holds buffer → Holds buffer.afterPass
  observer : ∀ {buffer : Buffer} {observer}, Holds buffer → Holds (buffer.addObserver observer)

theorem takeOver_keeps {Holds : Buffer → Prop}
    (hreact : ∀ body {session : Session}, Holds session.buffer →
      Holds (react body session).1.buffer)
    (session : Session) {edited : Edited} (h : Holds edited.1) :
    Holds (session.takeOver react edited).1.buffer := by
  obtain ⟨buffer, notice⟩ := edited
  cases notice with
  | none => exact h
  | some notice =>
      apply deliver_keeps (fun session => Holds session.buffer) id _ _ h
      intro session observer body used h htaken
      exact hreact body ((takeReaction_buffer htaken).symm ▸ h)

theorem KeptByBuffers.effect {Holds : Buffer → Prop} (hkept : KeptByBuffers Holds)
    (hreact : ∀ body {session : Session}, Holds session.buffer →
      Holds (react body session).1.buffer)
    {session after : Session} {command : Command} (heffect : Effect react session command after)
    (h : Holds session.buffer) : Holds after.buffer := by
  cases heffect with
  | unchanged => exact h
  | edited hedit =>
      rw [settle_fst]
      exact takeOver_keeps hreact session (hkept.edit hedit h)
  | changed hchange => exact hkept.change hchange h
  | recorded => exact hkept.record h
  | passed _ hpass =>
      have hpassed := hkept.pass h
      rwa [Buffer.afterPass, hpass] at hpassed
  | passFailed hpass =>
      have hpassed := hkept.pass h
      rwa [Buffer.afterPass, hpass] at hpassed
  | observed => exact hkept.observer h
  | refusedArchive => exact h
  | refusedPaste => exact h

theorem KeptByBuffers.reactWithin {Holds : Buffer → Prop} (hkept : KeptByBuffers Holds)
    (bound : Nat) (body : List Command) {session : Session} (h : Holds session.buffer) :
    Holds (Session.reactWithin bound body session).1.buffer :=
  reactWithin_keeps (fun session => Holds session.buffer)
    (fun hreact _ _ _ heffect h => hkept.effect hreact heffect h) bound body h

theorem KeptByBuffers.execute {Holds : Buffer → Prop} (hkept : KeptByBuffers Holds)
    (bound : Nat) (command : Command) {session : Session} (h : Holds session.buffer) :
    Holds (Session.execute (Session.reactWithin bound) command session).session.buffer :=
  execute_keeps (fun session => Holds session.buffer) trivial trivial
    (fun _ hblock h =>
      hkept.effect (fun body _ h => hkept.reactWithin bound body h) (effect_execute hblock) h)
    command command.every_true h

theorem KeptByBuffers.runAll {Holds : Buffer → Prop} (hkept : KeptByBuffers Holds)
    (commands : List Command) {session : Session} (h : Holds session.buffer) :
    Holds (session.runAll commands).buffer :=
  runAll_keeps (fun session => Holds session.buffer)
    (fun hreact _ _ _ heffect h => hkept.effect hreact heffect h) commands h

end Session

end MarkupEditor
