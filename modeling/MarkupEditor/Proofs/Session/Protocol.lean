import MarkupEditor.Proofs.Session.Refusals
import MarkupEditor.Proofs.Session.Silent

/-!
# The protocol of transactions

What passes are run, and who is told of them, can be said without the text and its
styling: it takes the number of characters, which decides on what is refused, the
number of transactions open, and the number of edits recorded since the last
notification.
-/

namespace MarkupEditor

/-- The state of the transactions of a buffer. -/
structure Protocol where
  /-- The number of characters. -/
  length : Nat
  /-- The number of transactions open. -/
  depth : Nat
  /-- The number of edits recorded since the last notification. -/
  edits : Nat
  observers : List Observer
  /-- Who has been notified of each pass, the latest first. -/
  notified : List (List Observer)

namespace Protocol

def start : Protocol := ⟨0, 0, 0, [], []⟩

def opened (protocol : Protocol) : Protocol := { protocol with depth := protocol.depth + 1 }

def recorded (protocol : Protocol) (delta : Int) : Protocol :=
  { protocol with
    length := (protocol.length + delta).toNat
    edits := protocol.edits + 1 }

/-- Ends a transaction that is open.  The end of the outermost one is followed by a pass
and the notification of it, if anything has been recorded. -/
def closed (protocol : Protocol) : Protocol :=
  if protocol.depth = 1 ∧ protocol.edits ≠ 0 then
    { protocol with
      depth := 0
      edits := 0
      notified := protocol.observers :: protocol.notified }
  else { protocol with depth := protocol.depth - 1 }

/-- An edit is recorded in a transaction of its own. -/
def edited (protocol : Protocol) : Option (Except Failure Mutation) → Protocol
  | some (.ok mutation) => (protocol.opened.recorded mutation.delta).closed
  | _ => protocol

/-- What comes of a call that is accepted. -/
def perform (protocol : Protocol) : Command → Protocol
  | .beginEditing => protocol.opened
  | .endEditing => protocol.closed
  | .observe name _ _ => { protocol with observers := protocol.observers ++ [.named name] }
  | .unobserve name => { protocol with observers := protocol.observers.erase (.named name) }
  | command => protocol.edited (command.mutation? protocol.length)

mutual

/-- What comes of a command, and why it is refused if it is.  The first call that is
refused ends a block, but its transaction is closed all the same; where calls inside of
the block have closed it already, its end is refused. -/
def run : Command → Protocol → Protocol × Option Failure
  | .editing body, protocol =>
    let (ran, refused) := runAll body protocol.opened
    if ran.depth = 0 then (ran, some .unmatchedEnd) else (ran.closed, refused)
  | command, protocol =>
    match command.refusal? protocol.length protocol.depth with
    | some failure => (protocol, some failure)
    | none => (protocol.perform command, none)

/-- What comes of commands up to the first refusal. -/
def runAll : List Command → Protocol → Protocol × Option Failure
  | [], protocol => (protocol, none)
  | command :: rest, protocol =>
    match run command protocol with
    | (reached, some failure) => (reached, some failure)
    | (reached, none) => runAll rest reached

end

/-- What comes of commands one after another, whether refused or not. -/
def after (protocol : Protocol) (commands : List Command) : Protocol :=
  commands.foldl (fun reached command => (run command reached).1) protocol

end Protocol

/-- Commands that record edits through the buffer, leave passes to the ends of
transactions, and prepare no reaction. -/
def Command.Orderly : Command → Prop
  | .recordEdit _ _ _ | .process | .colorize | .restore _ | .paste _ => False
  | .observe _ reaction _ => reaction = []
  | _ => True

/-- Commands that neither begin nor end a transaction by themselves. -/
def Command.Balanced (command : Command) : Prop :=
  command ≠ .beginEditing ∧ command ≠ .endEditing

theorem Command.Orderly.isCall {command : Command} (h : command.Orderly)
    (hblock : ∀ body, command ≠ .editing body) : command.IsCall := by
  cases command with
  | editing body => exact absurd rfl (hblock body)
  | restore | paste => exact h
  | _ => trivial

namespace Protocol

variable {protocol : Protocol} {command : Command}

theorem run_call (hblock : ∀ body, command ≠ .editing body) :
    run command protocol =
      match command.refusal? protocol.length protocol.depth with
      | some failure => (protocol, some failure)
      | none => (protocol.perform command, none) := by
  rw [run]
  exact hblock

theorem run_accepted (hblock : ∀ body, command ≠ .editing body)
    (haccepted : command.refusal? protocol.length protocol.depth = none) :
    run command protocol = (protocol.perform command, none) := by
  rw [run_call hblock, haccepted]

theorem run_of_open {body : List Command} (h : (runAll body protocol.opened).1.depth ≠ 0) :
    run (.editing body) protocol =
      ((runAll body protocol.opened).1.closed, (runAll body protocol.opened).2) := by
  rw [run]
  exact if_neg h

theorem run_of_closed {body : List Command} (h : (runAll body protocol.opened).1.depth = 0) :
    run (.editing body) protocol = ((runAll body protocol.opened).1, some .unmatchedEnd) := by
  rw [run]
  exact if_pos h

theorem runAll_of_refused (rest : List Command) {failure : Failure}
    (h : (run command protocol).2 = some failure) :
    runAll (command :: rest) protocol = ((run command protocol).1, some failure) := by
  rw [runAll]
  split
  · next hrun =>
    rw [hrun] at h ⊢
    cases h
    rfl
  · next hrun =>
    rw [hrun] at h
    cases h

theorem runAll_of_accepted (rest : List Command) (h : (run command protocol).2 = none) :
    runAll (command :: rest) protocol = runAll rest (run command protocol).1 := by
  rw [runAll]
  split
  · next hrun =>
    rw [hrun] at h
    cases h
  · next hrun => rw [hrun]

theorem perform_edit (hedits : command.Edits) :
    protocol.perform command = protocol.edited (command.mutation? protocol.length) := by
  cases command with
  | replace | setAttributes | delete | insert | append | setText | recolorize => rfl
  | _ => exact hedits.elim

theorem depth_closed (protocol : Protocol) : protocol.closed.depth = protocol.depth - 1 := by
  rw [closed]
  split
  · next h => rw [h.1]
  · rfl

theorem depth_edited (given : Option (Except Failure Mutation)) :
    (protocol.edited given).depth = protocol.depth := by
  rw [edited.eq_def]
  split
  · exact depth_closed _
  · rfl

theorem depth_perform (hbalanced : command.Balanced) :
    (protocol.perform command).depth = protocol.depth := by
  cases command with
  | beginEditing => exact absurd rfl hbalanced.1
  | endEditing => exact absurd rfl hbalanced.2
  | observe | unobserve => rfl
  | _ => exact depth_edited _

mutual

/-- Refused or not, balanced commands leave as many transactions open as they find. -/
theorem depth_run : ∀ (command : Command) {protocol : Protocol},
    command.Every Command.Balanced → (run command protocol).1.depth = protocol.depth := by
  intro command protocol hbalanced
  have hcall (hblock : ∀ body, command ≠ .editing body) (h : command.Balanced) :
      (run command protocol).1.depth = protocol.depth := by
    rw [run_call hblock]
    split
    · rfl
    · exact depth_perform h
  cases command with
  | editing body =>
      have hbody : (runAll body protocol.opened).1.depth = protocol.depth + 1 :=
        depth_runAll body hbalanced
      have hopen : (runAll body protocol.opened).1.depth ≠ 0 := by
        rw [hbody]
        exact Nat.succ_ne_zero _
      rw [run_of_open hopen, depth_closed, hbody]
      rfl
  | _ => exact hcall nofun hbalanced

theorem depth_runAll : ∀ (commands : List Command) {protocol : Protocol},
    everyCommand Command.Balanced commands → (runAll commands protocol).1.depth = protocol.depth
  | [], _, _ => rfl
  | command :: rest, protocol, hbalanced => by
      have hfirst : (run command protocol).1.depth = protocol.depth :=
        depth_run command hbalanced.1
      cases hanswer : (run command protocol).2 with
      | some failure =>
          rw [runAll_of_refused rest hanswer]
          exact hfirst
      | none =>
          rw [runAll_of_accepted rest hanswer]
          exact (depth_runAll rest hbalanced.2).trans hfirst

end

end Protocol

end MarkupEditor
