import MarkupEditor.Session.Command

/-!
# Sessions

A session is a buffer together with what its observers are prepared to do, and
a journal of what has happened.  A command that completes an outermost
transaction notifies the observers before it returns; their reactions are
commands as well and may complete transactions of their own.
-/

namespace MarkupEditor

/-- What an observer does when it is notified. -/
structure Reaction where
  body : List Command
  /-- How many more notifications it reacts to. -/
  remaining : Nat

/-- One thing that has happened in a session. -/
inductive Entry where
  /-- A pass over some characters colored some spans. -/
  | pass (characters spans : Nat)
  /-- An outermost transaction has been processed and has left a text. -/
  | processed (event : Event) (text : List Char)
  | notified (observer : Observer) (event : Event)
  | refusedArchive (size : Nat)
  | refusedPaste (type : String)
deriving DecidableEq

structure Session where
  buffer : Buffer
  /-- The reactions of the named observers that were ever registered. -/
  reactions : List (String × Reaction)
  /-- How many reactions have been taken up. -/
  turns : Nat
  /-- What has happened, the latest first. -/
  journal : List Entry

/-- What has become of a command. -/
structure Outcome where
  session : Session
  /-- The replies inside of a block, up to the first refusal. -/
  inner : List Reply
  result : Except Failure Reply

namespace Session

def new (buffer : Buffer) : Session := ⟨buffer, [], 0, []⟩

def note (session : Session) (entry : Entry) : Session :=
  { session with journal := entry :: session.journal }

/-- The commands that an observer reacts with, if it still reacts, and the
session with that reaction used up.  The commands are read anew each time. -/
def takeReaction (session : Session) : Observer → Option (List Command × Session)
  | .view => none
  | .named name =>
    match session.reactions.lookup name with
    | some ⟨body, remaining + 1⟩ =>
      let used (known : String × Reaction) : String × Reaction :=
        if known.1 = name then (name, ⟨body, remaining⟩) else known
      let turn := session.turns + 1
      some (rereadCommands turn body,
        { session with reactions := session.reactions.map used, turns := turn })
    | _ => none

/-- A way to run the commands of a reaction. -/
abbrev React := List Command → Session → Session × Option Failure

/-- Notifies observers one after another; the first reaction that is refused
ends the notification. -/
def deliver (react : React) (event : Event) : List Observer → Session → Session × Option Failure
  | [], session => (session, none)
  | observer :: rest, session =>
    let told := session.note (.notified observer event)
    match told.takeReaction observer with
    | none => deliver react event rest told
    | some (body, used) =>
      match react body used with
      | (reacted, none) => deliver react event rest reacted
      | (reacted, some failure) => (reacted, some failure)

/-- Takes over an edited buffer and makes the notification that is due. -/
def takeOver (react : React) (session : Session) : Edited → Session × Option Failure
  | (buffer, none) => ({ session with buffer := buffer }, none)
  | (buffer, some notice) =>
    let processed : Session :=
      { session with
        buffer := buffer
        journal := .processed notice.event buffer.text :: .pass buffer.length notice.spans ::
          session.journal }
    deliver react notice.event notice.observers processed

/-- Takes over what an edit comes to, be it given up or not.  A failure while it is
reported hides the one of the edit. -/
def settle (react : React) (session : Session) : Attempt Edited Edited → Session × Option Failure
  | .ok edited => session.takeOver react edited
  | .error stopped =>
    let (settled, failed) := session.takeOver react stopped.left
    (settled, failed <|> some stopped.failure)

/-- Registers a named observer, and its reaction if the name is new. -/
def observe (session : Session) (name : String) (reaction : List Command) (times : Nat) :
    Session :=
  let known := (session.reactions.lookup name).isSome
  { session with
    buffer := session.buffer.addObserver (.named name)
    reactions :=
      if known then session.reactions else session.reactions ++ [(name, ⟨reaction, times⟩)] }

end Session

namespace Outcome

def ofSettled : Session × Option Failure → Outcome
  | (session, none) => ⟨session, [], .ok .done⟩
  | (session, some failure) => ⟨session, [], .error failure⟩

/-- The outcome of an edit that may complete a transaction. -/
def ofEdit (react : Session.React) (session : Session)
    (edit : Attempt Edited Edited) : Outcome :=
  ofSettled (session.settle react edit)

/-- The outcome of a change of the buffer that notifies nobody. -/
def ofChange (session : Session) (change : Attempt Buffer Buffer) : Outcome :=
  match change with
  | .ok buffer => ⟨{ session with buffer := buffer }, [], .ok .done⟩
  | .error stopped => ⟨{ session with buffer := stopped.left }, [], .error stopped.failure⟩

/-- The outcome of a pass outside of a transaction. -/
def ofPass (session : Session) (reply : Nat → Reply) : Outcome :=
  match session.buffer.colorize with
  | .ok (buffer, spans) =>
    ⟨Session.note { session with buffer := buffer } (.pass buffer.length spans), [],
      .ok (reply spans)⟩
  | .error stopped => ⟨{ session with buffer := stopped.left }, [], .error stopped.failure⟩

/-- The outcome of a question. -/
def ofAnswer (session : Session) (answer : Except Failure Reply) : Outcome :=
  ⟨session, [], answer⟩

def refuse (session : Session) (entry : Entry) (failure : Failure) : Outcome :=
  ⟨session.note entry, [], .error failure⟩

def failure? (outcome : Outcome) : Option Failure :=
  match outcome.result with
  | .ok _ => none
  | .error failure => some failure

end Outcome

namespace Session

mutual

/-- Runs a command, given a way to run reactions. -/
def execute (react : React) : Command → Session → Outcome
  | .replace coordinates fragment, session =>
    .ofEdit react session do
      let span ← leaving session.buffer.untouched (Span.ofCoordinates coordinates)
      session.buffer.replaceCharacters span fragment
  | .setAttributes coordinates attributes, session =>
    .ofEdit react session do
      let span ← leaving session.buffer.untouched (Span.ofCoordinates coordinates)
      session.buffer.setAttributes span attributes
  | .delete coordinates, session =>
    .ofEdit react session do
      let span ← leaving session.buffer.untouched (Span.ofCoordinates coordinates)
      session.buffer.replaceCharacters span (.plain [])
  | .insert offset fragment, session =>
    .ofEdit react session do
      let span ← leaving session.buffer.untouched (Span.ofInts offset 0)
      session.buffer.replaceCharacters span fragment
  | .append fragment, session =>
    .ofEdit react session
      (session.buffer.replaceCharacters ⟨session.buffer.length, 0⟩ fragment)
  | .setText fragment, session =>
    .ofEdit react session (session.buffer.replaceCharacters session.buffer.whole fragment)
  | .addAttribute name value coordinates, session =>
    .ofChange session do
      let span ← leaving session.buffer (Span.ofCoordinates coordinates)
      session.buffer.addAttribute name value span
  | .removeAttribute name coordinates, session =>
    .ofChange session do
      let span ← leaving session.buffer (Span.ofCoordinates coordinates)
      session.buffer.removeAttribute name span
  | .assignAttribute name values, session =>
    .ofChange session (session.buffer.assignAttribute name values)
  | .attributesAt offset, session =>
    .ofAnswer session ((session.buffer.attributesAt offset).map fun (attributes, span) =>
      .styling attributes span)
  | .length, session => .ofAnswer session (.ok (.count session.buffer.length))
  | .beginEditing, session => .ofChange session (.ok session.buffer.beginEditing)
  | .endEditing, session => .ofEdit react session session.buffer.endEditing
  | .recordEdit mask coordinates delta, session =>
    .ofChange session do
      let span ← leaving session.buffer (Span.ofCoordinates coordinates)
      session.buffer.recordEdit mask span delta
  | .process, session => .ofPass session fun _ => .done
  | .colorize, session => .ofPass session .count
  | .recolorize, session => .ofEdit react session session.buffer.recolorize
  | .setColor layer value, session =>
    match session.buffer.setColor layer value with
    | .ok buffer =>
      ⟨{ session with buffer := buffer }, [], .ok (.color (buffer.palette.color layer))⟩
    | .error stopped => ⟨{ session with buffer := stopped.left }, [], .error stopped.failure⟩
  | .palette, session => .ofAnswer session (.ok (.palette session.buffer.palette))
  | .setFont font, session =>
    ⟨{ session with buffer := { session.buffer with font := font } }, [], .ok (.value font)⟩
  | .restore size, session => .refuse session (.refusedArchive size) .archiveRefused
  | .paste type, session => .refuse session (.refusedPaste type) (.pasteRefused type)
  | .exportAs form, session =>
    .ofAnswer session (.ok (.rendering (session.buffer.exportAs form)))
  | .editing body, session =>
    let opened := { session with buffer := session.buffer.beginEditing }
    let (ran, replies, refused) := executeAll react body opened
    let (closed, failed) := ran.settle react ran.buffer.endEditing
    match failed <|> refused with
    | none => ⟨closed, replies, .ok .block⟩
    | some failure => ⟨closed, replies, .error failure⟩
  | .observe name reaction times, session =>
    ⟨session.observe name reaction times, [], .ok .done⟩
  | .unobserve name, session =>
    .ofChange session (.ok (session.buffer.removeObserver (.named name)))

/-- Runs commands up to the first refusal. -/
def executeAll (react : React) : List Command → Session → Session × List Reply × Option Failure
  | [], session => (session, [], none)
  | command :: rest, session =>
    let outcome := execute react command session
    match outcome.result with
    | .error failure => (outcome.session, [], some failure)
    | .ok reply =>
      let (after, replies, refused) := executeAll react rest outcome.session
      (after, reply :: replies, refused)

end

/-- Runs reactions that are nested no deeper than a bound. -/
def reactWithin : Nat → React
  | 0 => fun _ session => (session, none)
  | bound + 1 => fun body session =>
    let (after, _, refused) := executeAll (reactWithin bound) body session
    (after, refused)

/-- How many reactions some observers can still prepare. -/
def remainingReactions : List (String × Reaction) → Nat
  | [] => 0
  | (_, reaction) :: rest =>
    reaction.remaining * (1 + commandReactions reaction.body) + remainingReactions rest

/-- How many reactions are still to come from the observers of a session.  Each
one is used up when it runs, so no more than this many can be nested. -/
def reactionsLeft (session : Session) : Nat := remainingReactions session.reactions

/-- Runs a command. -/
def run (session : Session) (command : Command) : Outcome :=
  execute (reactWithin (session.reactionsLeft + command.reactions)) command session

/-- Runs commands one after another, whether refused or not. -/
def runAll (session : Session) (commands : List Command) : Session :=
  commands.foldl (fun reached command => (reached.run command).session) session

end Session

end MarkupEditor
