import MarkupEditor.Proofs.Buffer.Unstyled
import MarkupEditor.Proofs.Session.Passive

/-!
# Edits leave no trace

A buffer that has only been given plain text has the runs that its text would have
in a new buffer with the same settings, whatever edits have led to it: from the
first transaction on that is completed after the last change of the settings, and
outside of transactions.
-/

namespace MarkupEditor

/-- Commands that give no attributes: edits of plain text, transactions, changes of
the settings, and looking on. -/
def Command.Unstyled : Command → Prop
  | .replace _ fragment | .insert _ fragment | .append fragment | .setText fragment =>
    fragment.IsPlain
  | .delete _ | .recolorize | .beginEditing | .endEditing | .setColor _ _ | .setFont _ => True
  | command => command.Passive

/-- Commands that change the font or a color; a value that is no color changes
nothing. -/
def Command.Sets : Command → Prop
  | .setFont _ => True
  | .setColor _ value => ∃ color, Color.ofValue value = .ok color
  | _ => False

theorem Command.Unstyled.mutation {command : Command} (h : command.Unstyled) {length : Nat}
    {mutation : Mutation} (hmutation : command.mutation? length = some (.ok mutation)) :
    mutation.Unstyled := by
  have hplace {place : Except Failure Span} {given : Span → Mutation}
      (hgiven : (place >>= fun span => pure (given span)) = Except.ok mutation)
      (hunstyled : ∀ span, (given span).Unstyled) : mutation.Unstyled := by
    obtain ⟨span, -, hspan⟩ := exists_of_bind_eq_ok hgiven
    cases hspan
    exact hunstyled span
  cases command with
  | replace | delete | insert => exact hplace (Option.some.inj hmutation) fun _ => h
  | append | setText | recolorize =>
      cases hmutation
      exact h
  | setAttributes => exact h.elim
  | _ => cases hmutation

namespace Session

/-- The sessions that calls of allowed commands lead to, blocks of them included. -/
inductive LeadsTo (allowed : Command → Prop) (start : Session) : Session → Prop
  | start : LeadsTo allowed start start
  | call {session : Session} (h : LeadsTo allowed start session) (bound : Nat)
      {command : Command} (hevery : command.Every allowed) :
      LeadsTo allowed start (execute (reactWithin bound) command session).session

theorem leadsTo_runAll {allowed : Command → Prop} {start session : Session}
    (h : LeadsTo allowed start session) {commands : List Command}
    (hevery : everyCommand allowed commands) :
    LeadsTo allowed start (session.runAll commands) := by
  induction commands generalizing session with
  | nil => exact h
  | cons command rest ih => exact ih (h.call _ hevery.1) hevery.2

/-- A session of unstyled text and passive observers, with nothing left to report
outside of transactions. -/
structure Unstyled (session : Session) : Prop where
  consistent : session.buffer.Consistent
  unstyled : session.buffer.Unstyled
  passive : session.Passive
  idle : session.buffer.depth = 0 → session.buffer.pending.mask = 0

/-- With nothing pending, the runs are up to date. -/
def Settled (session : Session) : Prop :=
  session.buffer.pending.mask = 0 → session.buffer.UpToDate

/-- A call either goes unreported, and then leaves a settled session settled unless
it changes the settings, or it ends with a pass that is reported. -/
def Progress (steady : Prop) (session after : Session) : Prop :=
  (events after.journal = events session.journal ∧
      (steady → session.Settled → after.Settled)) ∨
    ((events session.journal).length < (events after.journal).length ∧ after.buffer.UpToDate)

variable {session after : Session}

theorem unstyled_new (font : Value) (roles : Roles) (palette : Palette) :
    Unstyled (new { Buffer.new font roles with palette := palette }) where
  consistent := ⟨RunList.canonical_empty, rfl⟩
  unstyled _ hcell := absurd hcell List.not_mem_nil
  passive _ hknown := absurd hknown List.not_mem_nil
  idle _ := rfl

theorem settled_new (font : Value) (roles : Roles) : Settled (new (Buffer.new font roles)) :=
  fun _ => ⟨⟨RunList.canonical_empty, .nil⟩, fun _ hcell => absurd hcell List.not_mem_nil⟩

theorem Unstyled.unchanged (h : session.Unstyled) (steady : Prop) :
    session.Unstyled ∧ Progress steady session session :=
  ⟨h, .inl ⟨rfl, fun _ hsettled => hsettled⟩⟩

/-- Depth and observers do not show in the runs. -/
theorem Unstyled.reframe (h : session.Unstyled) (steady : Prop) {depth : Nat}
    {observers : List Observer}
    (hbuffer : after.buffer = { session.buffer with depth := depth, observers := observers })
    (hevents : events after.journal = events session.journal) (hpassive : after.Passive)
    (hidle : depth = 0 → session.buffer.pending.mask = 0) :
    after.Unstyled ∧ Progress steady session after := by
  refine ⟨⟨?_, ?_, hpassive, ?_⟩, .inl ⟨hevents, fun _ hsettled => ?_⟩⟩
  · rw [hbuffer]
    exact ⟨h.consistent.canonical, h.consistent.length⟩
  · rw [hbuffer]
    exact h.unstyled
  · rw [hbuffer]
    exact hidle
  · rw [Settled, hbuffer]
    exact fun hmask => ⟨(hsettled hmask).colored, (hsettled hmask).stored⟩

/-- A pass over unstyled text at the end of a transaction. -/
theorem Unstyled.passed (steady : Prop) {edited : Buffer} (hconsistent : edited.Consistent)
    (hunstyled : edited.Unstyled) {runs : RunList} (hpassed : edited.Passed runs)
    {observers : List Observer}
    (hbuffer : after.buffer = { edited with
      depth := 0, pending := .none, runs := runs, observers := observers })
    {event : Event} (hevents : events after.journal = event :: events session.journal)
    (hpassive : after.Passive) (hafter : after.buffer.Consistent) :
    after.Unstyled ∧ Progress steady session after := by
  have hupToDate : after.buffer.UpToDate := by
    rw [hbuffer]
    exact hpassed.upToDate hconsistent hunstyled ⟨rfl, rfl, rfl, rfl⟩
  refine ⟨⟨hafter, hupToDate.unstyled, hpassive, ?_⟩, .inr ⟨?_, hupToDate⟩⟩
  · intro _
    rw [hbuffer]
    rfl
  · rw [hevents]
    exact Nat.lt_succ_self _

/-- An edit is refused, or waits inside of a transaction, or ends with a pass. -/
theorem Unstyled.edit (h : session.Unstyled) (steady : Prop) (bound : Nat) {command : Command}
    (hedits : command.Edits) (hunstyled : command.Unstyled) :
    (execute (reactWithin bound) command session).session.Unstyled ∧
      Progress steady session (execute (reactWithin bound) command session).session := by
  have hafter := keptByBuffers_consistent.execute bound command h.consistent
  obtain ⟨given, hgiven⟩ := hedits.exists_mutation? session.buffer.length
  by_cases hfits : ∃ mutation, given = .ok mutation ∧ mutation.Fits session.buffer.length
  · obtain ⟨mutation, rfl, hfits⟩ := hfits
    have hmutation : mutation.Unstyled := hunstyled.mutation hgiven
    by_cases hdepth : session.buffer.depth = 0
    · obtain ⟨edited, runs, observers, after, hedited, hpassed, hexecute, hbuffer, hevents,
        hpassive⟩ := exists_execute_outermost bound h.consistent h.passive hgiven hfits hdepth
      rw [hexecute] at hafter ⊢
      exact Unstyled.passed steady hedited.consistent (hedited.unstyled hmutation h.unstyled)
        hpassed hbuffer hevents hpassive hafter
    · obtain ⟨edited, hedited, hexecute⟩ :=
        exists_execute_nested (reactWithin bound) h.consistent hgiven hfits hdepth
      rw [hexecute] at hafter ⊢
      exact ⟨⟨hafter, hedited.unstyled hmutation h.unstyled, h.passive,
          fun hzero => absurd hzero hdepth⟩,
        .inl ⟨rfl, fun _ _ hmask => absurd hmask hedited.mask_ne_zero⟩⟩
  · obtain ⟨failure, hexecute⟩ := exists_execute_refused (reactWithin bound) hgiven
      fun mutation hok hplace => hfits ⟨mutation, hok, hplace⟩
    rw [hexecute]
    exact h.unchanged steady

theorem Unstyled.endEditing (h : session.Unstyled) (steady : Prop) (bound : Nat) :
    (execute (reactWithin bound) .endEditing session).session.Unstyled ∧
      Progress steady session (execute (reactWithin bound) .endEditing session).session := by
  have hafter := keptByBuffers_consistent.execute bound .endEditing h.consistent
  rw [execute, session_ofEdit] at hafter ⊢
  cases hdepth : session.buffer.depth with
  | zero =>
      rw [Buffer.endEditing, hdepth]
      exact h.unchanged steady
  | succ depth =>
      by_cases hquiet : depth ≠ 0 ∨ session.buffer.pending.mask = 0
      · rw [Buffer.endEditing_quiet hdepth hquiet]
        exact h.reframe steady rfl rfl h.passive fun hzero =>
          hquiet.resolve_left (not_not_intro hzero)
      · rw [not_or, not_not] at hquiet
        obtain ⟨rfl, hmask⟩ := hquiet
        obtain ⟨runs, observers, hpassed, hbuffer, hevents, hpassive⟩ :=
          exists_settle_outermost bound h.consistent hdepth hmask h.passive
        exact Unstyled.passed steady h.consistent h.unstyled hpassed hbuffer hevents hpassive
          hafter

/-- What one call does. -/
theorem Unstyled.execute (h : session.Unstyled) (bound : Nat) {command : Command}
    (hunstyled : command.Unstyled) (hblock : ∀ body, command ≠ .editing body) :
    (Session.execute (reactWithin bound) command session).session.Unstyled ∧
      Progress (¬ command.Sets) session
        (Session.execute (reactWithin bound) command session).session := by
  cases command with
  | replace | delete | insert | append | setText | recolorize =>
      exact h.edit _ bound trivial hunstyled
  | beginEditing =>
      exact h.reframe _ rfl rfl h.passive fun hzero => absurd hzero (Nat.succ_ne_zero _)
  | endEditing => exact h.endEditing _ bound
  | setFont font =>
      exact ⟨⟨⟨h.consistent.canonical, h.consistent.length⟩, h.unstyled, h.passive, h.idle⟩,
        .inl ⟨rfl, fun hsteady => absurd trivial hsteady⟩⟩
  | setColor layer value =>
      cases hcolor : Color.ofValue value with
      | error failure =>
          rw [Session.execute, Buffer.setColor, hcolor]
          exact h.unchanged _
      | ok color =>
          rw [Session.execute, Buffer.setColor, hcolor]
          exact ⟨⟨⟨h.consistent.canonical, h.consistent.length⟩, h.unstyled, h.passive, h.idle⟩,
            .inl ⟨rfl, fun hsteady => absurd ⟨color, hcolor⟩ hsteady⟩⟩
  | attributesAt | length | palette | restore | paste | exportAs | observe | unobserve =>
      have hwatched := watched_look (reactWithin bound) hunstyled hblock h.passive
      exact h.reframe _ hwatched.buffer hwatched.events hwatched.passive h.idle
  | editing body => exact absurd rfl (hblock body)
  | _ => exact hunstyled.elim

/-! ### From the last change of the settings on -/

theorem LeadsTo.unstyled {start : Session} (h : LeadsTo Command.Unstyled start session)
    (hstart : start.Unstyled) : session.Unstyled := by
  induction h with
  | start => exact hstart
  | call _ bound hevery ih =>
      exact execute_keeps Unstyled trivial trivial
        (fun hunstyled hblock h => (h.execute bound hunstyled hblock).1) _ hevery ih

/-- What holds from some session on, as long as the settings stay. -/
structure Since (start session : Session) : Prop where
  unstyled : session.Unstyled
  reported : (events start.journal).length ≤ (events session.journal).length
  settled : start.Settled ∨ (events start.journal).length < (events session.journal).length →
    session.Settled

theorem Since.execute {start : Session} (h : Since start session) (bound : Nat)
    {command : Command} (hunstyled : command.Unstyled) (hsteady : ¬ command.Sets)
    (hblock : ∀ body, command ≠ .editing body) :
    Since start (Session.execute (reactWithin bound) command session).session := by
  obtain ⟨hafter, ⟨hevents, hkept⟩ | ⟨hreported, hupToDate⟩⟩ :=
    h.unstyled.execute bound hunstyled hblock
  · refine ⟨hafter, ?_, ?_⟩
    · rw [hevents]
      exact h.reported
    · rw [hevents]
      exact fun hstart => hkept hsteady (h.settled hstart)
  · exact ⟨hafter, Nat.le_of_lt (Nat.lt_of_le_of_lt h.reported hreported), fun _ _ => hupToDate⟩

/-- The induction is on the calls, and inside of them on the nesting of blocks. -/
theorem LeadsTo.since {start : Session}
    (h : LeadsTo (fun command => command.Unstyled ∧ ¬ command.Sets) start session)
    (hstart : start.Unstyled) : Since start session := by
  have hbegin : (Command.beginEditing).Unstyled ∧ ¬ (Command.beginEditing).Sets :=
    ⟨trivial, not_false⟩
  have hend : (Command.endEditing).Unstyled ∧ ¬ (Command.endEditing).Sets :=
    ⟨trivial, not_false⟩
  induction h with
  | start =>
      refine ⟨hstart, Nat.le_refl _, ?_⟩
      rintro (hsettled | hmore)
      · exact hsettled
      · exact absurd hmore (Nat.lt_irrefl _)
  | call _ bound hevery ih =>
      exact execute_keeps (Since start) hbegin hend
        (fun hallowed hblock h => h.execute bound hallowed.1 hallowed.2 hblock) _ hevery ih

/-- A new session with the settings of a buffer, after its text has been set at once. -/
def rebuilt (buffer : Buffer) : Outcome :=
  (new { Buffer.new buffer.font buffer.roles with palette := buffer.palette }).run
    (.setText (.plain buffer.text))

theorem rebuilt_upToDate (buffer : Buffer) :
    (rebuilt buffer).result = .ok .done ∧ (rebuilt buffer).session.buffer.Consistent ∧
      buffer.SameSettings (rebuilt buffer).session.buffer ∧
      (rebuilt buffer).session.buffer.UpToDate := by
  let fresh : Buffer := { Buffer.new buffer.font buffer.roles with palette := buffer.palette }
  have hnew : (new fresh).Unstyled := unstyled_new buffer.font buffer.roles buffer.palette
  have hfresh : fresh.Consistent := hnew.consistent
  have hfits : (Mutation.replaceCharacters fresh.whole (.plain buffer.text)).Fits
      fresh.length := Nat.le_refl 0
  obtain ⟨edited, runs, hmutate, hedited, hpassed⟩ :=
    Buffer.exists_mutate_outermost hfresh hfits rfl
  have hobservers : edited.observers = [] := by
    rw [hedited.frame]
    rfl
  have hrun : rebuilt buffer = .ofSettled ((new fresh).settle (reactWithin 0)
      (fresh.mutate (.replaceCharacters fresh.whole (.plain buffer.text)))) := rfl
  have hconsistent : (rebuilt buffer).session.buffer.Consistent :=
    keptByBuffers_consistent.execute _ _ hnew.consistent
  have hunstyled : edited.Unstyled := hedited.unstyled trivial hnew.unstyled
  rw [hrun, hmutate, hobservers] at hconsistent ⊢
  refine ⟨rfl, hconsistent, ⟨?_, ?_, ?_, ?_⟩, ?_⟩
  · change buffer.text = edited.text
    rw [hedited.text, Mutation.onText, Text.replaceSpan_eq]
    exact (List.append_nil _).symm
  · exact (congrArg Buffer.font hedited.frame).symm
  · exact (congrArg Buffer.palette hedited.frame).symm
  · exact (congrArg Buffer.roles hedited.frame).symm
  · exact hpassed.upToDate hedited.consistent hunstyled ⟨rfl, rfl, rfl, rfl⟩

/-- A run of plain edits and changes of the settings, in transactions nested to any
depth and with refused calls, leaves no trace of itself: outside of transactions,
and once a transaction has been completed and reported after the settings last
changed, the runs are those of a new session with these settings after the whole
text has been set at once. -/
theorem runs_eq_rebuilt (font : Value) (roles : Roles) {changed session : Session}
    (hchanged : LeadsTo Command.Unstyled (new (Buffer.new font roles)) changed)
    (hsteady : LeadsTo (fun command => command.Unstyled ∧ ¬ command.Sets) changed session)
    (hcompleted : changed = new (Buffer.new font roles) ∨
      (events changed.journal).length < (events session.journal).length)
    (hdepth : session.buffer.depth = 0) :
    (rebuilt session.buffer).result = .ok .done ∧
      session.buffer.runs = (rebuilt session.buffer).session.buffer.runs := by
  have hstart : (new (Buffer.new font roles)).Unstyled := unstyled_new font roles .standard
  have hsince : Since changed session := hsteady.since (hchanged.unstyled hstart)
  have hsettled : session.Settled := by
    apply hsince.settled
    rcases hcompleted with rfl | hmore
    · exact .inl (settled_new font roles)
    · exact .inr hmore
  have hupToDate : session.buffer.UpToDate := hsettled (hsince.unstyled.idle hdepth)
  obtain ⟨hresult, hconsistent, hsettings, hrebuilt⟩ := rebuilt_upToDate session.buffer
  exact ⟨hresult,
    hupToDate.runs_eq hsince.unstyled.consistent hconsistent hrebuilt hsettings⟩

/-- A text, and settings that only the next transaction shows. -/
def resettled : Session :=
  (new (Buffer.new hiddenFont .standard)).runAll
    [.setText (.plain "<p>one".toList), .setFont readingFont]

/-- A block inside of another one, which a deletion behind the text cuts short. -/
def cutShort : List Command :=
  [.editing [.insert 1 (.plain "a ".toList), .editing [.delete [0, 1], .delete [40, 1]],
    .setText (.plain [])]]

theorem runs_eq_rebuilt_cutShort :
    (resettled.runAll cutShort).buffer.text = "a p>one".toList ∧
      (resettled.runAll cutShort).buffer.runs =
        (rebuilt (resettled.runAll cutShort).buffer).session.buffer.runs := by
  have hchanged : LeadsTo Command.Unstyled (new (Buffer.new hiddenFont .standard)) resettled :=
    leadsTo_runAll .start ⟨trivial, trivial, trivial⟩
  have hsteady : LeadsTo (fun command => command.Unstyled ∧ ¬ command.Sets) resettled
      (resettled.runAll cutShort) := by
    apply leadsTo_runAll .start
    simp [cutShort, everyCommand, Command.Every, Command.Unstyled, Command.Sets,
      Fragment.IsPlain]
  have hcompleted : (events resettled.journal).length <
      (events (resettled.runAll cutShort).journal).length := by
    decide +kernel
  have hdepth : (resettled.runAll cutShort).buffer.depth = 0 := by
    decide +kernel
  have htext : (resettled.runAll cutShort).buffer.text = "a p>one".toList := by
    decide +kernel
  exact ⟨htext,
    (runs_eq_rebuilt hiddenFont .standard hchanged hsteady (.inr hcompleted) hdepth).2⟩

end Session

end MarkupEditor
