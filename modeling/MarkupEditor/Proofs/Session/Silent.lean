import MarkupEditor.Proofs.Session.Edits

/-!
# Observers that only take note

An observer without commands to react with leaves nothing but the note of its
notification.  So the end of a transaction either waits, or runs one pass and
then tells every observer registered, in order, of one and the same event.
-/

namespace MarkupEditor

namespace Session

/-- A session whose observers, all that were ever registered, only take note. -/
def Silent (session : Session) : Prop := ∀ known ∈ session.reactions, known.2.body = []

/-- A way to run reactions by which no commands do nothing. -/
def React.Idle (react : React) : Prop := ∀ session, react [] session = (session, none)

theorem idle_reactWithin (bound : Nat) : React.Idle (reactWithin bound) := by
  intro session
  cases bound with
  | zero => rfl
  | succ bound => rfl

/-- The notes of a notification, the latest first. -/
def notices (event : Event) (observers : List Observer) : List Entry :=
  (observers.map fun observer => .notified observer event).reverse

theorem notices_cons (event : Event) (observer : Observer) (rest : List Observer) :
    notices event (observer :: rest) = notices event rest ++ [.notified observer event] := by
  rw [notices, List.map_cons, List.reverse_cons]
  rfl

theorem mem_notices (event : Event) {observer : Observer} {observers : List Observer}
    (h : observer ∈ observers) : .notified observer event ∈ notices event observers :=
  List.mem_reverse.2 (List.mem_map_of_mem h)

variable {react : React} {session : Session}

theorem silent_new (buffer : Buffer) : (new buffer).Silent := by
  intro known hknown
  exact absurd hknown List.not_mem_nil

theorem Silent.observe (h : session.Silent) (name : String) (times : Nat) :
    (session.observe name [] times).Silent := by
  intro known hknown
  rcases mem_reactions_observe hknown with hknown | hnew
  · exact h known hknown
  · exact hnew

theorem Silent.takeReaction (h : session.Silent) {observer : Observer} {body : List Command}
    {used : Session} (htaken : session.takeReaction observer = some (body, used)) :
    body = [] ∧ used.buffer = session.buffer ∧ used.journal = session.journal ∧ used.Silent := by
  obtain ⟨hbuffer, hjournal, ⟨known, hknown, hbody⟩, hused⟩ := exists_of_takeReaction htaken
  rw [h known hknown] at hbody
  refine ⟨hbody, hbuffer, hjournal, ?_⟩
  intro other hother
  obtain ⟨origin, horigin, hsame⟩ := hused other hother
  exact hsame.trans (h origin horigin)

/-- A notification leaves one note for each observer and never fails.  The induction is
on the observers still to be told. -/
theorem Silent.exists_deliver (h : session.Silent) (hidle : react.Idle) (event : Event)
    (observers : List Observer) :
    ∃ told, deliver react event observers session = (told, none) ∧
      told.buffer = session.buffer ∧
      told.journal = notices event observers ++ session.journal ∧ told.Silent := by
  induction observers generalizing session with
  | nil => exact ⟨session, rfl, rfl, rfl, h⟩
  | cons observer rest ih =>
      have hnoted : (session.note (.notified observer event)).Silent := h
      rw [deliver, notices_cons]
      split
      · obtain ⟨told, htold, hbuffer, hjournal, hsilent⟩ := ih hnoted
        refine ⟨told, htold, hbuffer, ?_, hsilent⟩
        rw [hjournal, List.append_assoc]
        rfl
      · next body used htaken =>
        obtain ⟨rfl, hused, hkept, hready⟩ := hnoted.takeReaction htaken
        obtain ⟨told, htold, hbuffer, hjournal, hsilent⟩ := ih hready
        rw [hidle used]
        refine ⟨told, htold, hbuffer.trans hused, ?_, hsilent⟩
        rw [hjournal, hkept, List.append_assoc]
        rfl

/-- What the end of a transaction leaves: it waits, or a pass has been run over the text
and reported to all observers. -/
inductive Closes (before after : Session) : Prop
  | quiet (hquiet : before.buffer.depth ≠ 1 ∨ before.buffer.pending.mask = 0)
      (hbuffer : after.buffer = { before.buffer with depth := before.buffer.depth - 1 })
      (hjournal : after.journal = before.journal)
  | reported (hdepth : before.buffer.depth = 1) (hmask : before.buffer.pending.mask ≠ 0)
      {runs : RunList} {spans : Nat}
      (hbuffer : after.buffer =
        { before.buffer with depth := 0, pending := .none, runs := runs })
      (hjournal : after.journal =
        notices before.buffer.pending.event before.buffer.observers ++
          .processed before.buffer.pending.event before.buffer.text ::
            .pass before.buffer.length spans :: before.journal)

theorem Closes.frame {before after : Session} (h : Closes before after) :
    after.buffer.text = before.buffer.text ∧ after.buffer.observers = before.buffer.observers ∧
      after.buffer.depth = before.buffer.depth - 1 := by
  cases h with
  | quiet hquiet hbuffer hjournal =>
      rw [hbuffer]
      exact ⟨rfl, rfl, rfl⟩
  | reported hdepth hmask hbuffer hjournal =>
      rw [hbuffer, hdepth]
      exact ⟨rfl, rfl, rfl⟩

/-- At the end of the outermost transaction all observers learn what has been edited. -/
theorem Closes.mem_journal {before after : Session} (h : Closes before after)
    (hdepth : before.buffer.depth = 1) (hmask : before.buffer.pending.mask ≠ 0)
    {observer : Observer} (hobserver : observer ∈ before.buffer.observers) :
    .notified observer before.buffer.pending.event ∈ after.journal := by
  cases h with
  | quiet hquiet hbuffer hjournal =>
      exact absurd hquiet (not_or.2 ⟨not_not_intro hdepth, hmask⟩)
  | reported hdepth hmask hbuffer hjournal =>
      rw [hjournal]
      exact List.mem_append_left _ (mem_notices _ hobserver)

theorem Silent.exists_settle_endEditing (h : session.Silent) (hidle : react.Idle)
    (hconsistent : session.buffer.Consistent) (hdepth : session.buffer.depth ≠ 0) :
    ∃ after, session.settle react session.buffer.endEditing = (after, none) ∧
      Closes session after ∧ after.buffer.Consistent ∧ after.Silent := by
  obtain ⟨buffer, notice, hend⟩ := Buffer.exists_endEditing hconsistent hdepth
  have hafter : buffer.Consistent := by
    have hended := Buffer.consistent_endEditing hconsistent
    rwa [hend] at hended
  rw [hend]
  obtain ⟨depth, hopen, ⟨hquiet, rfl, rfl⟩ | ⟨rfl, hmask, spans, hpass, rfl⟩⟩ :=
    Buffer.endEditing_cases hend
  · refine ⟨_, rfl, .quiet ?_ ?_ rfl, hafter, h⟩
    · exact hquiet.imp_left fun hne hone => hne (Nat.succ.inj (hopen.symm.trans hone))
    · rw [hopen]
      rfl
  · obtain ⟨runs, rfl⟩ := Buffer.eq_of_colorize_eq_ok hpass
    have hprocessed : Silent (session.completed
        { session.buffer with depth := 0, pending := .none, runs := runs }
        ⟨session.buffer.pending.event, session.buffer.observers, spans⟩) := h
    obtain ⟨told, htold, hbuffer, hjournal, hsilent⟩ :=
      hprocessed.exists_deliver hidle session.buffer.pending.event session.buffer.observers
    refine ⟨told, htold, .reported hopen hmask hbuffer hjournal, ?_, hsilent⟩
    rw [hbuffer]
    exact hafter

/-- An accepted edit is made, and the end of its transaction settled. -/
theorem Silent.exists_execute_edit (h : session.Silent) (hidle : react.Idle)
    (hconsistent : session.buffer.Consistent) {command : Command} {mutation : Mutation}
    (hmutation : command.mutation? session.buffer.length = some (.ok mutation))
    (hfits : mutation.Fits session.buffer.length) :
    ∃ edited after, session.buffer.Mutated mutation edited ∧
      execute react command session = ⟨after, [], .ok .done⟩ ∧
      Closes { session with buffer := edited } after ∧ after.buffer.Consistent ∧ after.Silent := by
  obtain ⟨edited, hedited, hexecute⟩ := exists_execute_settled react hconsistent hmutation hfits
  have hopen : edited.depth ≠ 0 := by
    rw [hedited.frame]
    exact Nat.succ_ne_zero _
  have hopened : Silent { session with buffer := edited } := h
  obtain ⟨after, hsettle, hcloses, hafter, hsilent⟩ :=
    hopened.exists_settle_endEditing hidle hedited.consistent hopen
  have hsame : session.settle react edited.endEditing = (after, none) := by
    obtain ⟨buffer, notice, hend⟩ := Buffer.exists_endEditing hedited.consistent hopen
    rw [← hsettle, hend]
    cases notice <;> rfl
  refine ⟨edited, after, hedited, ?_, hcloses, hafter, hsilent⟩
  rw [hexecute, Outcome.ofEdit, hsame]
  rfl

/-- The notification that follows on an edit does not change the buffer. -/
theorem Silent.buffer_settle (h : session.Silent) (hidle : react.Idle) (buffer : Buffer)
    (notice : Option Notice) : (session.settle react (.ok (buffer, notice))).1.buffer = buffer := by
  cases notice with
  | none => rfl
  | some notice =>
      have hprocessed : Silent (session.completed buffer notice) := h
      obtain ⟨told, htold, hbuffer, -⟩ :=
        hprocessed.exists_deliver hidle notice.event notice.observers
      exact (congrArg (fun settled => settled.1.buffer) htold).trans hbuffer

theorem Silent.buffer_execute (h : session.Silent) (hidle : react.Idle) {command : Command}
    {mutation : Mutation}
    (hmutation : command.mutation? session.buffer.length = some (.ok mutation)) {buffer : Buffer}
    {notice : Option Notice} (hmutate : session.buffer.mutate mutation = .ok (buffer, notice)) :
    (execute react command session).session.buffer = buffer := by
  have hsettled (settled : Session × Option Failure) :
      (Outcome.ofSettled settled).session = settled.1 := by
    obtain ⟨settled, failed⟩ := settled
    cases failed <;> rfl
  have hedit : execute react command session = .ofEdit react session (.ok (buffer, notice)) := by
    rw [← hmutate]
    exact execute_edit hmutation
  rw [hedit, Outcome.ofEdit, hsettled]
  exact h.buffer_settle hidle buffer notice

/-- Outside of transactions an accepted edit is followed by a pass, and every observer is
told of it. -/
theorem Silent.exists_execute_outermost (h : session.Silent) (hidle : react.Idle)
    (hconsistent : session.buffer.Consistent) {command : Command} {mutation : Mutation}
    (hmutation : command.mutation? session.buffer.length = some (.ok mutation))
    (hfits : mutation.Fits session.buffer.length) (hdepth : session.buffer.depth = 0) :
    ∃ edited runs after,
      session.buffer.mutate mutation =
        .ok ({ edited with depth := 0, pending := .none, runs := runs },
          some ⟨edited.pending.event, edited.observers,
            (edited.roles.classify edited.text).length⟩) ∧
      session.buffer.Mutated mutation edited ∧ edited.Passed runs ∧
      execute react command session = ⟨after, [], .ok .done⟩ ∧
      after.buffer = { edited with depth := 0, pending := .none, runs := runs } ∧
      after.journal = notices edited.pending.event edited.observers ++
        .processed edited.pending.event edited.text ::
          .pass edited.length (edited.roles.classify edited.text).length :: session.journal ∧
      after.Silent := by
  obtain ⟨edited, runs, hmutate, hedited, hpassed⟩ :=
    Buffer.exists_mutate_outermost hconsistent hfits hdepth
  have hprocessed : Silent (session.completed
      { edited with depth := 0, pending := .none, runs := runs }
      ⟨edited.pending.event, edited.observers, (edited.roles.classify edited.text).length⟩) := h
  obtain ⟨told, htold, hbuffer, hjournal, hsilent⟩ :=
    hprocessed.exists_deliver hidle edited.pending.event edited.observers
  refine ⟨edited, runs, told, hmutate, hedited, hpassed, ?_, hbuffer, hjournal, hsilent⟩
  have hsettle : session.settle react (session.buffer.mutate mutation) = (told, none) := by
    rw [hmutate]
    exact htold
  calc
    execute react command session = .ofEdit react session (session.buffer.mutate mutation) :=
      execute_edit hmutation
    _ = ⟨told, [], .ok .done⟩ := by
      rw [Outcome.ofEdit, hsettle]
      rfl

end Session

end MarkupEditor
