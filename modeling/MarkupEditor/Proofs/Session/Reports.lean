import MarkupEditor.Proofs.Buffer.Mutation

/-!
# Observers are told the truth

As long as all edits go through the buffer and observers only record, every
event tells how the text differs from the one reported before.  A listener who
rereads no more than the span of each event always has the whole text.
-/

namespace MarkupEditor

namespace Session

/-- The text that the transaction processed last has left. -/
def reportedText : List Entry → List Char
  | [] => []
  | .processed _ text :: _ => text
  | _ :: earlier => reportedText earlier

/-- The event of a transaction while observers are notified of it. -/
def dueEvent : List Entry → Option Event
  | .processed event _ :: _ => some event
  | .notified _ _ :: earlier => dueEvent earlier
  | _ => none

/-- Every event is the difference to the text reported before it, and observers
are notified of the event of the transaction just processed. -/
def Truthful : List Entry → Prop
  | [] => True
  | .processed event text :: earlier =>
    Diff (reportedText earlier) text event.span event.delta ∧ Truthful earlier
  | .notified _ event :: earlier => dueEvent earlier = some event ∧ Truthful earlier
  | _ :: earlier => Truthful earlier

/-- What becomes of a copy of the text if, for every event, the span of the event
is read anew and put in the place of what it stands for. -/
def follow (copy : List Char) : List Entry → List Char
  | [] => copy
  | .processed event text :: earlier =>
    let known := follow copy earlier
    known.take event.span.start ++ (text.drop event.span.start).take event.span.length
      ++ known.drop (event.span.stop - event.delta).toNat
  | _ :: earlier => follow copy earlier

/-- A copy that is once right stays right. -/
theorem follow_eq_reportedText {later earlier : List Entry} (h : Truthful (later ++ earlier)) :
    follow (reportedText earlier) later = reportedText (later ++ earlier) := by
  induction later with
  | nil => rfl
  | cons entry rest ih =>
      cases entry with
      | processed event text =>
          rw [follow, ih h.2]
          exact h.1.text_eq.symm
      | notified observer event => exact ih h.2
      | pass characters spans => exact ih h
      | refusedArchive size => exact ih h
      | refusedPaste type => exact ih h

/-- Commands that record edits through the buffer only, and prepare no reaction. -/
def Recording : Command → Prop
  | .recordEdit _ _ _ => False
  | .observe _ reaction _ => reaction = []
  | _ => True

/-- A session that has reported the truth and whose observers do nothing. -/
structure Reporting (session : Session) : Prop where
  consistent : session.buffer.Consistent
  truthful : Truthful session.journal
  accounted : session.buffer.Accounted (reportedText session.journal)
  passive : ∀ known ∈ session.reactions, known.2.body = []

theorem reporting_new (font : Value) (roles : Roles) :
    (new (Buffer.new font roles)).Reporting where
  consistent := Buffer.consistent_new font roles
  truthful := trivial
  accounted := Buffer.accounted_new font roles
  passive := by
    intro known hknown
    exact absurd hknown List.not_mem_nil

/-- Taking up the reaction of a passive observer gives nothing to do. -/
theorem Reporting.takeReaction {session used : Session} (h : session.Reporting)
    {observer : Observer} {body : List Command}
    (htaken : session.takeReaction observer = some (body, used)) :
    body = [] ∧ used.journal = session.journal ∧ used.Reporting := by
  obtain ⟨hbuffer, hjournal, ⟨known, hknown, hbody⟩, hused⟩ := exists_of_takeReaction htaken
  rw [h.passive known hknown] at hbody
  refine ⟨hbody, hjournal, hbuffer ▸ h.consistent, hjournal ▸ h.truthful, ?_, ?_⟩
  · rw [hbuffer, hjournal]
    exact h.accounted
  · intro other hother
    obtain ⟨origin, horigin, hsame⟩ := hused other hother
    exact hsame.trans (h.passive origin horigin)

variable {react : React}

/-- Notifying passive observers leaves nothing but notes. -/
theorem Reporting.deliver (hreact : ∀ session, (react [] session).1 = session) {event : Event}
    (observers : List Observer) {session : Session} (h : session.Reporting)
    (hdue : dueEvent session.journal = some event) :
    (Session.deliver react event observers session).1.Reporting := by
  have hkept : (Session.deliver react event observers session).1.Reporting ∧
      dueEvent (Session.deliver react event observers session).1.journal = some event := by
    apply deliver_keeps (fun session => session.Reporting ∧ dueEvent session.journal = some event)
      _ _ observers ⟨h, hdue⟩
    · rintro session observer ⟨h, hdue⟩
      exact ⟨⟨h.consistent, ⟨hdue, h.truthful⟩, h.accounted, h.passive⟩, hdue⟩
    · rintro session observer body used ⟨h, hdue⟩ htaken
      obtain ⟨rfl, hjournal, hused⟩ := h.takeReaction htaken
      rw [hreact]
      exact ⟨hused, hjournal ▸ hdue⟩
  exact hkept.1

theorem Reporting.settle (hreact : ∀ session, (react [] session).1 = session) {session : Session}
    (h : session.Reporting) {edit : Attempt Edited Edited} (hedit : session.buffer.Edit edit) :
    (session.settle react edit).1.Reporting := by
  have hconsistent := Buffer.consistent_edit h.consistent hedit
  obtain ⟨buffer, notice, hresult⟩ | ⟨failure, hresult⟩ := hedit.ok_or_untouched h.consistent
  · have hsettles := Buffer.settles_edit h.accounted hedit hresult
    rw [hresult] at hconsistent ⊢
    cases notice with
    | none => exact ⟨hconsistent, h.truthful, hsettles, h.passive⟩
    | some notice =>
        exact Reporting.deliver hreact notice.observers
          ⟨hconsistent, ⟨hsettles.1, h.truthful⟩, hsettles.2, h.passive⟩ rfl
  · rw [hresult]
    exact h

theorem Reporting.effect (hreact : ∀ session, (react [] session).1 = session)
    {session after : Session} {command : Command} (hrecording : Recording command)
    (heffect : Effect react session command after) (h : session.Reporting) : after.Reporting := by
  cases heffect with
  | unchanged => exact h
  | edited hedit => exact h.settle hreact hedit
  | changed hchange =>
      exact ⟨Buffer.consistent_change h.consistent hchange, h.truthful,
        Buffer.accounted_change h.accounted hchange, h.passive⟩
  | recorded => exact hrecording.elim
  | passed _ hpass =>
      have hconsistent := Buffer.consistent_colorize h.consistent hpass
      obtain ⟨runs, rfl⟩ := Buffer.eq_of_colorize_eq_ok hpass
      exact ⟨hconsistent, h.truthful, ⟨h.accounted.pending, h.accounted.idle⟩, h.passive⟩
  | passFailed hfailed =>
      obtain ⟨colored, hpass, -⟩ := Buffer.exists_colorize h.consistent
      cases hfailed.symm.trans hpass
  | @observed name reaction times =>
      refine ⟨⟨h.consistent.canonical, h.consistent.length⟩, h.truthful,
        ⟨h.accounted.pending, h.accounted.idle⟩, ?_⟩
      intro known hknown
      rcases mem_reactions_observe hknown with hknown | hnew
      · exact h.passive known hknown
      · exact hnew.trans hrecording
  | refusedArchive => exact ⟨h.consistent, h.truthful, h.accounted, h.passive⟩
  | refusedPaste => exact ⟨h.consistent, h.truthful, h.accounted, h.passive⟩

theorem reactWithin_nil (bound : Nat) (session : Session) :
    (reactWithin bound [] session).1 = session := by
  cases bound with
  | zero => rfl
  | succ bound => rfl

/-- The induction is on the commands; blocks and their nesting are those of every
invariant of sessions. -/
theorem Reporting.runAll {commands : List Command} (hrecording : everyCommand Recording commands)
    {session : Session} (h : session.Reporting) : (session.runAll commands).Reporting := by
  induction commands generalizing session with
  | nil => exact h
  | cons command rest ih =>
      apply ih hrecording.2
      exact execute_keeps Reporting trivial trivial
        (fun hallowed hblock h =>
          h.effect (reactWithin_nil _) hallowed (effect_execute hblock)) command hrecording.1 h

/-- In every session of edits through the buffer, blocks nested to any depth and
refused commands included, each event is the difference of the texts before and
after it; so a listener who follows the events from any of them on has the text
that was reported last, and outside of transactions this is the text of the
buffer. -/
theorem truthful_runAll (font : Value) (roles : Roles) {commands : List Command}
    (hrecording : everyCommand Recording commands) :
    let session := (new (Buffer.new font roles)).runAll commands
    Truthful session.journal ∧
      (∀ later earlier, session.journal = later ++ earlier →
        follow (reportedText earlier) later = reportedText session.journal) ∧
      (session.buffer.depth = 0 → session.buffer.text = reportedText session.journal) := by
  intro session
  have h : session.Reporting := (reporting_new font roles).runAll hrecording
  refine ⟨h.truthful, ?_, h.accounted.text_eq⟩
  intro later earlier hjournal
  have htruthful := h.truthful
  rw [hjournal] at htruthful ⊢
  exact follow_eq_reportedText htruthful

/-- A text, and a block that is refused halfway inside of another one. -/
def refusedBlock : List Command :=
  [.setText (.plain "<p>one</p>".toList),
    .editing [.insert 6 (.plain "!".toList),
      .editing [.delete [0, 2], .replace [40, 1] (.plain [])],
      .setText (.plain [])]]

theorem follow_runAll_refusedBlock :
    everyCommand Recording refusedBlock ∧
      follow [] ((new (Buffer.new hiddenFont .standard)).runAll refusedBlock).journal =
        ">one!</p>".toList := by
  have hrecording : everyCommand Recording refusedBlock :=
    ⟨trivial, ⟨trivial, ⟨trivial, trivial, trivial⟩, trivial, trivial⟩, trivial⟩
  obtain ⟨-, hfollow, hidle⟩ := truthful_runAll hiddenFont .standard hrecording
  have hdepth : ((new (Buffer.new hiddenFont .standard)).runAll refusedBlock).buffer.depth = 0 := by
    decide +kernel
  have htext : ((new (Buffer.new hiddenFont .standard)).runAll refusedBlock).buffer.text =
      ">one!</p>".toList := by
    decide +kernel
  refine ⟨hrecording, ?_⟩
  rw [← htext, hidle hdepth]
  exact hfollow _ [] (List.append_nil _).symm

end Session

end MarkupEditor
