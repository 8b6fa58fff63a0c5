import MarkupEditor.Session.Run

/-!
# What a command does to a session

Blocks apart, a command edits the buffer and makes the notification that is due,
changes the buffer and notifies nobody, records an edit, runs a pass, registers
an observer, is refused, or leaves the session as it is.  A block is its commands
between the beginning and the end of a transaction.  So what each of these
effects keeps is kept by every command, however deep its blocks are nested, and
by every reaction of an observer.
-/

namespace MarkupEditor

/-- An edit of a buffer that may complete a transaction. -/
inductive Buffer.Edit (buffer : Buffer) : Attempt Edited Edited → Prop
  | replaceCharacters (span : Span) (fragment : Fragment) :
      Edit buffer (buffer.replaceCharacters span fragment)
  | setAttributes (span : Span) (attributes : AttributeSet) :
      Edit buffer (buffer.setAttributes span attributes)
  | recolorize : Edit buffer buffer.recolorize
  | endEditing : Edit buffer buffer.endEditing

/-- A change of a buffer that records nothing and notifies nobody, as far as it goes. -/
inductive Buffer.Change (buffer : Buffer) : Buffer → Prop
  | addAttribute (name : String) (value : Value) (span : Span) :
      Change buffer (buffer.addAttribute name value span).state
  | removeAttribute (name : String) (span : Span) :
      Change buffer (buffer.removeAttribute name span).state
  | assignAttribute (name : String) (values : List (Option Value)) :
      Change buffer (buffer.assignAttribute name values).state
  | beginEditing : Change buffer buffer.beginEditing
  | setColor (layer : Layer) (value : Value) :
      Change buffer (buffer.setColor layer value).state
  | setFont (font : Value) : Change buffer { buffer with font := font }
  | removeObserver (observer : Observer) : Change buffer (buffer.removeObserver observer)

theorem Buffer.frame_restyle (buffer : Buffer) (change : Attempt RunList RunList) :
    (buffer.restyle change).state.text = buffer.text ∧
      (buffer.restyle change).state.pending = buffer.pending ∧
      buffer.depth ≤ (buffer.restyle change).state.depth := by
  rw [state_restyle]
  exact ⟨rfl, rfl, Nat.le_refl _⟩

/-- A change leaves the text and what is pending as they are, and ends no transaction. -/
theorem Buffer.Change.frame {buffer after : Buffer} (h : buffer.Change after) :
    after.text = buffer.text ∧ after.pending = buffer.pending ∧ buffer.depth ≤ after.depth := by
  cases h with
  | addAttribute | removeAttribute | assignAttribute => exact buffer.frame_restyle _
  | beginEditing => exact ⟨rfl, rfl, Nat.le_succ _⟩
  | setColor layer value =>
      rw [state_setColor]
      exact ⟨rfl, rfl, Nat.le_refl _⟩
  | setFont font => exact ⟨rfl, rfl, Nat.le_refl _⟩
  | removeObserver observer => exact ⟨rfl, rfl, Nat.le_refl _⟩

namespace Session

/-- The session when a transaction has been processed and nobody has been told. -/
def completed (session : Session) (buffer : Buffer) (notice : Notice) : Session :=
  { session with
    buffer := buffer
    journal := .processed notice.event buffer.text :: .pass buffer.length notice.spans ::
      session.journal }

/-- What a command other than a block can do to a session. -/
inductive Effect (react : React) (session : Session) : Command → Session → Prop
  | unchanged {command : Command} : Effect react session command session
  | edited {command : Command} {edit : Attempt Edited Edited} (h : session.buffer.Edit edit) :
      Effect react session command (session.settle react edit).1
  | changed {command : Command} {buffer : Buffer} (h : session.buffer.Change buffer) :
      Effect react session command { session with buffer := buffer }
  | recorded {mask : Nat} {coordinates : List Int} {delta : Int} {span : Span} :
      Effect react session (.recordEdit mask coordinates delta)
        { session with buffer := (session.buffer.recordEdit mask span delta).state }
  | passed {command : Command} {buffer : Buffer} {spans : Nat}
      (hcommand : command = .process ∨ command = .colorize)
      (h : session.buffer.colorize = .ok (buffer, spans)) :
      Effect react session command
        (note { session with buffer := buffer } (.pass buffer.length spans))
  | passFailed {command : Command} {stopped : Stopped Buffer}
      (h : session.buffer.colorize = .error stopped) :
      Effect react session command { session with buffer := stopped.left }
  | observed {name : String} {reaction : List Command} {times : Nat} :
      Effect react session (.observe name reaction times) (session.observe name reaction times)
  | refusedArchive {size : Nat} :
      Effect react session (.restore size) (session.note (.refusedArchive size))
  | refusedPaste {type : String} :
      Effect react session (.paste type) (session.note (.refusedPaste type))

variable {react : React} {session : Session}

/-- An edit is taken over as far as it goes. -/
theorem settle_fst (edit : Attempt Edited Edited) :
    (session.settle react edit).1 = (session.takeOver react edit.state).1 := by
  cases edit <;> rfl

theorem session_ofSettled (settled : Session × Option Failure) :
    (Outcome.ofSettled settled).session = settled.1 := by
  obtain ⟨settled, failure⟩ := settled
  cases failure <;> rfl

theorem session_ofEdit (edit : Attempt Edited Edited) :
    (Outcome.ofEdit react session edit).session = (session.settle react edit).1 :=
  session_ofSettled _

theorem effect_ofEdit {command : Command} {edit : Attempt Edited Edited}
    (h : session.buffer.Edit edit) :
    Effect react session command (Outcome.ofEdit react session edit).session := by
  rw [session_ofEdit]
  exact .edited h

/-- An edit of a span that has still to be read from its coordinates. -/
theorem effect_ofEdit_bind {command : Command} (given : Except Failure Span)
    {edit : Span → Attempt Edited Edited} (h : ∀ span, session.buffer.Edit (edit span)) :
    Effect react session command (Outcome.ofEdit react session
      (leaving session.buffer.untouched given >>= edit)).session := by
  cases given with
  | error failure => exact .unchanged
  | ok span => exact effect_ofEdit (h span)

theorem session_ofChange (change : Attempt Buffer Buffer) :
    (Outcome.ofChange session change).session = { session with buffer := change.state } := by
  cases change <;> rfl

theorem effect_ofChange {command : Command} {change : Attempt Buffer Buffer}
    (h : session.buffer.Change change.state) :
    Effect react session command (Outcome.ofChange session change).session := by
  rw [session_ofChange]
  exact .changed h

theorem effect_ofChange_bind {command : Command} (given : Except Failure Span)
    {change : Span → Attempt Buffer Buffer}
    (h : ∀ span, session.buffer.Change (change span).state) :
    Effect react session command
      (Outcome.ofChange session (leaving session.buffer given >>= change)).session := by
  cases given with
  | error failure => exact .unchanged
  | ok span => exact effect_ofChange (h span)

theorem effect_ofPass {command : Command} (hcommand : command = .process ∨ command = .colorize)
    (reply : Nat → Reply) :
    Effect react session command (Outcome.ofPass session reply).session := by
  rw [Outcome.ofPass]
  split
  · next hpass => exact .passed hcommand hpass
  · next hfailed => exact .passFailed hfailed

theorem effect_execute {command : Command} (hblock : ∀ body, command ≠ .editing body) :
    Effect react session command (execute react command session).session := by
  cases command with
  | replace coordinates fragment =>
      exact effect_ofEdit_bind _ fun span => .replaceCharacters span fragment
  | setAttributes coordinates attributes =>
      exact effect_ofEdit_bind _ fun span => .setAttributes span attributes
  | delete coordinates => exact effect_ofEdit_bind _ fun span => .replaceCharacters span _
  | insert offset fragment =>
      exact effect_ofEdit_bind _ fun span => .replaceCharacters span fragment
  | append fragment => exact effect_ofEdit (.replaceCharacters _ fragment)
  | setText fragment => exact effect_ofEdit (.replaceCharacters _ fragment)
  | addAttribute name value coordinates =>
      exact effect_ofChange_bind _ fun span => .addAttribute name value span
  | removeAttribute name coordinates =>
      exact effect_ofChange_bind _ fun span => .removeAttribute name span
  | assignAttribute name values => exact effect_ofChange (.assignAttribute name values)
  | attributesAt offset => exact .unchanged
  | length => exact .unchanged
  | beginEditing => exact .changed .beginEditing
  | endEditing => exact effect_ofEdit .endEditing
  | recordEdit mask coordinates delta =>
      rw [execute]
      cases Span.ofCoordinates coordinates with
      | error failure => exact .unchanged
      | ok span =>
          change Effect react session _
            (Outcome.ofChange session (session.buffer.recordEdit mask span delta)).session
          rw [session_ofChange]
          exact .recorded
  | process => exact effect_ofPass (.inl rfl) _
  | colorize => exact effect_ofPass (.inr rfl) _
  | recolorize => exact effect_ofEdit .recolorize
  | setColor layer value =>
      have hchange : session.buffer.Change (session.buffer.setColor layer value).state :=
        .setColor layer value
      rw [execute]
      split
      · next hcolor =>
        rw [hcolor] at hchange
        exact .changed hchange
      · next hcolor =>
        rw [hcolor] at hchange
        exact .changed hchange
  | palette => exact .unchanged
  | setFont font => exact .changed (.setFont font)
  | restore size => exact .refusedArchive
  | paste type => exact .refusedPaste
  | exportAs form => exact .unchanged
  | editing body => exact absurd rfl (hblock body)
  | observe name reaction times => exact .observed
  | unobserve name => exact .changed (.removeObserver _)

/-- A block is its commands between the beginning and the end of a transaction. -/
theorem session_execute_editing (body : List Command) :
    (execute react (.editing body) session).session =
      (execute react .endEditing
        (executeAll react body (execute react .beginEditing session).session).1).session := by
  simp only [execute, session_ofEdit]
  split <;> rfl

end Session

end MarkupEditor
