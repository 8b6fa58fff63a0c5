import MarkupEditor.Buffer.Pass

/-!
# Edits of a buffer

Every edit is a transaction of its own.  The end of the outermost transaction
with something pending runs a coloring pass over the whole text and says whom to
notify of what.  A transaction ends in any case: when its edit is given up in the
middle, what has been done until then is processed and reported.
-/

namespace MarkupEditor

/-- The notification due after an outermost transaction. -/
structure Notice where
  event : Event
  /-- The observers registered when the notification starts. -/
  observers : List Observer
  /-- The number of spans of markup that the pass colored. -/
  spans : Nat

/-- A buffer after an edit, and the notification that is due. -/
abbrev Edited := Buffer × Option Notice

namespace Buffer

/-- A buffer that nothing has been done to. -/
def untouched (buffer : Buffer) : Edited := (buffer, none)

def beginEditing (buffer : Buffer) : Buffer := { buffer with depth := buffer.depth + 1 }

/-- Closes a transaction.  What is pending is forgotten before the pass. -/
def endEditing (buffer : Buffer) : Attempt Edited Edited :=
  match buffer.depth with
  | 0 => .error ⟨.unmatchedEnd, buffer.untouched⟩
  | depth + 1 =>
    if depth ≠ 0 ∨ buffer.pending.mask = 0 then .ok ({ buffer with depth := depth }, none)
    else do
      let (colored, spans) ←
        onPart untouched (colorize { buffer with depth := depth, pending := .none })
      pure (colored, some ⟨buffer.pending.event, colored.observers, spans⟩)

/-- Runs an edit inside of a transaction, which ends also where the edit is given up.  A
failure at the end hides the one before it. -/
def transact (buffer : Buffer) (edit : Buffer → Attempt Buffer Buffer) : Attempt Edited Edited :=
  match edit buffer.beginEditing with
  | .ok edited => edited.endEditing
  | .error stopped => do
    let closed ← stopped.left.endEditing
    .error ⟨stopped.failure, closed⟩

/-- Records an edit; outside of a transaction it waits for the next one to end. -/
def recordEdit (buffer : Buffer) (mask : Nat) (span : Span) (delta : Int) :
    Attempt Buffer Buffer := do
  let pending ← leaving buffer (buffer.pending.record mask span delta)
  pure { buffer with pending := pending }

theorem state_recordEdit (buffer : Buffer) (mask : Nat) (span : Span) (delta : Int) :
    (buffer.recordEdit mask span delta).state =
      { buffer with pending := (buffer.recordEdit mask span delta).state.pending } := by
  rw [recordEdit]
  cases buffer.pending.record mask span delta <;> rfl

/-- The attribute set that plain text takes over: that of the first character it
replaces, else of the character before it, else of the first character. -/
def inherited (buffer : Buffer) (span : Span) : Except Failure AttributeSet :=
  if buffer.text.isEmpty then .ok ∅
  else
    let offset := if span.length ≠ 0 then span.start else span.start - 1
    (buffer.runs.attributesAt offset).map Prod.fst

/-- The attribute set that a fragment carries when it replaces a span. -/
def carried (buffer : Buffer) (span : Span) : Fragment → Except Failure AttributeSet
  | .plain _ => buffer.inherited span
  | .styled _ attributes => .ok attributes

/-- Puts text in the place of a span and styles it. -/
def splice (buffer : Buffer) (span : Span) (text : List Char) (attributes : AttributeSet) :
    Attempt Buffer Buffer :=
  let rewritten : Buffer :=
    { buffer with text := Text.replaceSpan span.start span.length text buffer.text }
  rewritten.restyle (rewritten.runs.replace span text.length attributes)

/-- Replaces the characters of a span. -/
def replaceCharacters (buffer : Buffer) (span : Span) (fragment : Fragment) :
    Attempt Edited Edited := do
  leaving buffer.untouched (span.within buffer.length)
  let attributes ← leaving buffer.untouched (buffer.carried span fragment)
  buffer.transact fun opened => do
    let spliced ← opened.splice span fragment.text attributes
    spliced.recordEdit (attributeChange ||| characterChange) span
      ((fragment.length : Int) - span.length)

/-- Gives a span an attribute set of its own. -/
def setAttributes (buffer : Buffer) (span : Span) (attributes : AttributeSet) :
    Attempt Edited Edited := do
  leaving buffer.untouched (span.within buffer.length)
  buffer.transact fun opened => do
    let restyled ← opened.restyle (opened.runs.setAttributes span attributes)
    restyled.recordEdit attributeChange span 0

/-- Runs a pass with the present settings as if everything had changed. -/
def recolorize (buffer : Buffer) : Attempt Edited Edited :=
  buffer.transact fun opened => opened.recordEdit attributeChange opened.whole 0

end Buffer

end MarkupEditor
