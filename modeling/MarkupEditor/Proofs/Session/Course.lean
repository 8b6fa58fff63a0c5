import MarkupEditor.Proofs.Session.Protocol
import MarkupEditor.Proofs.Session.Reached

/-!
# Sessions keep to the protocol

Call by call, inside of blocks as outside of them and whatever is refused, a session
has the number of transactions open and the observers that the protocol says, and its
journal shows the passes and notifications that are due and no others.
-/

namespace MarkupEditor

namespace Session

/-- A journal that shows, for each pass, its transaction and the notification of some
observers of one event, and nothing else.  The latest pass comes first. -/
inductive Reports : List Entry → List (List Observer) → Prop
  | nothing : Reports [] []
  | pass {journal : List Entry} {notified : List (List Observer)} (h : Reports journal notified)
      (event : Event) (observers : List Observer) (text : List Char) (spans : Nat) :
      Reports
        (notices event observers ++
          .processed event text :: .pass text.length spans :: journal)
        (observers :: notified)

end Session

namespace Protocol

open Session

/-- What a session has in common with the protocol of its transactions. -/
structure KeptBy (protocol : Protocol) (session : Session) : Prop where
  consistent : session.buffer.Consistent
  silent : session.Silent
  length : session.buffer.length = protocol.length
  depth : session.buffer.depth = protocol.depth
  observers : session.buffer.observers = protocol.observers
  settled : protocol.depth = 0 → protocol.edits = 0
  nothing : protocol.edits = 0 → session.buffer.pending = .none
  something : protocol.edits ≠ 0 → session.buffer.pending.mask ≠ 0
  reports : Reports session.journal protocol.notified

variable {protocol : Protocol} {session : Session}

/-- The styling and the settings of a buffer do not matter. -/
theorem KeptBy.restyled (h : protocol.KeptBy session) {buffer : Buffer}
    (hconsistent : buffer.Consistent)
    (hframe : buffer = { session.buffer with
      runs := buffer.runs, font := buffer.font, palette := buffer.palette }) :
    protocol.KeptBy { session with buffer := buffer } := by
  refine ⟨hconsistent, h.silent, ?_, ?_, ?_, h.settled, ?_, ?_, h.reports⟩
  all_goals rw [hframe]
  · exact h.length
  · exact h.depth
  · exact h.observers
  · exact h.nothing
  · exact h.something

/-- Observers come and go without a trace in the text. -/
theorem KeptBy.reobserved (h : protocol.KeptBy session) {after : Session}
    (change : List Observer → List Observer) (hsilent : after.Silent)
    (hbuffer : after.buffer =
      { session.buffer with observers := change session.buffer.observers })
    (hjournal : after.journal = session.journal) :
    KeptBy { protocol with observers := change protocol.observers } after := by
  refine ⟨?_, hsilent, ?_, ?_, ?_, h.settled, ?_, ?_, ?_⟩
  case refine_7 => exact hjournal ▸ h.reports
  all_goals rw [hbuffer]
  · exact ⟨h.consistent.canonical, h.consistent.length⟩
  · exact h.length
  · exact h.depth
  · exact congrArg change h.observers
  · exact h.nothing
  · exact h.something

theorem KeptBy.opened (h : protocol.KeptBy session) :
    protocol.opened.KeptBy { session with buffer := session.buffer.beginEditing } where
  consistent := ⟨h.consistent.canonical, h.consistent.length⟩
  silent := h.silent
  length := h.length
  depth := congrArg Nat.succ h.depth
  observers := h.observers
  settled hzero := absurd hzero (Nat.succ_ne_zero _)
  nothing := h.nothing
  something := h.something
  reports := h.reports

theorem KeptBy.recorded (h : protocol.KeptBy session) {mutation : Mutation} {edited : Buffer}
    (hedited : session.buffer.Mutated mutation edited)
    (hfits : mutation.Fits session.buffer.length) :
    (protocol.opened.recorded mutation.delta).KeptBy { session with buffer := edited } where
  consistent := hedited.consistent
  silent := h.silent
  length := by
    change edited.length = ((protocol.length : Int) + mutation.delta).toNat
    rw [hedited.length hfits, h.length]
  depth := by
    change edited.depth = protocol.depth + 1
    rw [hedited.frame, h.depth]
  observers := by
    change edited.observers = protocol.observers
    rw [hedited.frame]
    exact h.observers
  settled hzero := absurd hzero (Nat.succ_ne_zero _)
  nothing hzero := absurd hzero (Nat.succ_ne_zero _)
  something _ := hedited.mask_ne_zero
  reports := h.reports

theorem KeptBy.closed (h : protocol.KeptBy session) (hopen : protocol.depth ≠ 0) {after : Session}
    (hcloses : Closes session after) (hconsistent : after.buffer.Consistent)
    (hsilent : after.Silent) : protocol.closed.KeptBy after := by
  obtain ⟨htext, hobservers, hdepth⟩ := hcloses.frame
  have hlength : after.buffer.length = protocol.length :=
    (congrArg List.length htext).trans h.length
  have hleft : after.buffer.depth = protocol.depth - 1 := by rw [hdepth, h.depth]
  rw [Protocol.closed]
  cases hcloses with
  | quiet hquiet hbuffer hjournal =>
      have hwaits : ¬ (protocol.depth = 1 ∧ protocol.edits ≠ 0) := by
        rintro ⟨hdepth, hedits⟩
        exact hquiet.elim (fun hne => hne (h.depth.trans hdepth)) (h.something hedits)
      rw [if_neg hwaits]
      constructor
      case consistent => exact hconsistent
      case silent => exact hsilent
      case length => exact hlength
      case depth => exact hleft
      case observers => exact hobservers.trans h.observers
      case settled =>
        intro hzero
        by_contra hedits
        have hdepth : protocol.depth = 1 :=
          Nat.le_antisymm (Nat.sub_eq_zero_iff_le.1 hzero) (Nat.one_le_iff_ne_zero.2 hopen)
        exact hwaits ⟨hdepth, hedits⟩
      case nothing => rw [hbuffer]; exact h.nothing
      case something => rw [hbuffer]; exact h.something
      case reports => rw [hjournal]; exact h.reports
  | reported hlast hmask hbuffer hjournal =>
      have hedits : protocol.edits ≠ 0 := by
        intro hzero
        rw [h.nothing hzero] at hmask
        exact hmask rfl
      have houtermost : protocol.depth = 1 := h.depth.symm.trans hlast
      rw [if_pos ⟨houtermost, hedits⟩]
      constructor
      case consistent => exact hconsistent
      case silent => exact hsilent
      case length => exact hlength
      case depth => rw [hleft, houtermost]
      case observers => exact hobservers.trans h.observers
      case settled => exact fun _ => rfl
      case nothing =>
        intro _
        rw [hbuffer]
      case something => exact fun hne => absurd rfl hne
      case reports =>
        rw [hjournal, h.observers]
        exact h.reports.pass ..

/-! ### One command -/

variable {bound : Nat} {command : Command}

/-- A session answers a command and is left as the protocol says. -/
def Obeys (bound : Nat) (command : Command) (protocol : Protocol) (session : Session) : Prop :=
  (run command protocol).1.KeptBy (execute (reactWithin bound) command session).session ∧
    (execute (reactWithin bound) command session).failure? = (run command protocol).2

theorem KeptBy.obeys_edit (h : protocol.KeptBy session) (hedits : command.Edits)
    (hblock : ∀ body, command ≠ .editing body)
    (haccepted : command.refusal? protocol.length protocol.depth = none) :
    Obeys bound command protocol session := by
  obtain ⟨mutation, hmutation, hfits⟩ := Command.exists_mutation_of_accepted hedits haccepted
  rw [Obeys, run_accepted hblock haccepted, perform_edit hedits, hmutation]
  rw [← h.length] at hmutation hfits
  obtain ⟨edited, after, hedited, hexecute, hcloses, hconsistent, hsilent⟩ :=
    h.silent.exists_execute_edit (idle_reactWithin bound) h.consistent hmutation hfits
  rw [hexecute]
  exact ⟨(h.recorded hedited hfits).closed (Nat.succ_ne_zero _) hcloses hconsistent hsilent, rfl⟩

theorem KeptBy.obeys_end (bound : Nat) (h : protocol.KeptBy session) (hopen : protocol.depth ≠ 0) :
    protocol.closed.KeptBy
        (session.settle (reactWithin bound) session.buffer.endEditing).1 ∧
      (session.settle (reactWithin bound) session.buffer.endEditing).2 = none := by
  have hdepth : session.buffer.depth ≠ 0 := by
    rw [h.depth]
    exact hopen
  obtain ⟨after, hsettle, hcloses, hconsistent, hsilent⟩ :=
    h.silent.exists_settle_endEditing (idle_reactWithin bound) h.consistent hdepth
  rw [hsettle]
  exact ⟨h.closed hopen hcloses hconsistent hsilent, rfl⟩

theorem KeptBy.obeys_accepted (h : protocol.KeptBy session) (horderly : command.Orderly)
    (hblock : ∀ body, command ≠ .editing body)
    (haccepted : command.refusal? protocol.length protocol.depth = none) :
    Obeys bound command protocol session := by
  have hgiven : command.refusal? session.buffer.length session.buffer.depth = none := by
    rw [h.length, h.depth]
    exact haccepted
  have hconsistent : (execute (reactWithin bound) command session).session.buffer.Consistent :=
    keptByBuffers_consistent.execute bound command h.consistent
  have hrestyle (hrestyles : command.Restyles) (hperform : protocol.perform command = protocol) :
      Obeys bound command protocol session := by
    obtain ⟨runs, hexecute⟩ :=
      exists_execute_restyled (reactWithin bound) h.consistent hrestyles hgiven
    rw [Obeys, run_accepted hblock haccepted, hperform]
    rw [hexecute] at hconsistent ⊢
    exact ⟨h.restyled hconsistent rfl, rfl⟩
  cases command with
  | replace | setAttributes | delete | insert | append | setText | recolorize =>
      exact h.obeys_edit trivial hblock haccepted
  | addAttribute | removeAttribute | assignAttribute => exact hrestyle trivial rfl
  | beginEditing =>
      rw [Obeys, run_accepted hblock haccepted]
      exact ⟨h.opened, rfl⟩
  | endEditing =>
      rw [Obeys, run_accepted hblock haccepted, execute, Outcome.ofEdit, session_ofSettled,
        failure?_ofSettled]
      exact h.obeys_end bound (Command.depth_ne_zero_of_accepted haccepted)
  | attributesAt offset =>
      obtain ⟨styling, hstyling⟩ := h.consistent.exists_attributesAt_of_accepted hgiven
      rw [Obeys, run_accepted hblock haccepted, execute, hstyling]
      exact ⟨h, rfl⟩
  | setColor layer value =>
      obtain ⟨color, hcolor⟩ := Command.exists_color_of_accepted haccepted
      rw [Obeys, run_accepted hblock haccepted, execute, Buffer.setColor, hcolor]
      exact ⟨h.restyled ⟨h.consistent.canonical, h.consistent.length⟩ rfl, rfl⟩
  | setFont font =>
      rw [Obeys, run_accepted hblock haccepted]
      exact ⟨h.restyled ⟨h.consistent.canonical, h.consistent.length⟩ rfl, rfl⟩
  | length | palette | exportAs =>
      rw [Obeys, run_accepted hblock haccepted]
      exact ⟨h, rfl⟩
  | observe name reaction times =>
      have hreaction : reaction = [] := horderly
      rw [Obeys, run_accepted hblock haccepted, hreaction]
      exact ⟨h.reobserved (· ++ [Observer.named name]) (h.silent.observe name times) rfl rfl, rfl⟩
  | unobserve name =>
      rw [Obeys, run_accepted hblock haccepted]
      exact ⟨h.reobserved (List.erase · (Observer.named name)) h.silent rfl rfl, rfl⟩
  | editing body => exact absurd rfl (hblock body)
  | recordEdit | process | colorize | restore | paste => exact horderly.elim

theorem KeptBy.obeys_call (h : protocol.KeptBy session) (horderly : command.Orderly)
    (hblock : ∀ body, command ≠ .editing body) : Obeys bound command protocol session := by
  cases hrefusal : command.refusal? protocol.length protocol.depth with
  | none => exact h.obeys_accepted horderly hblock hrefusal
  | some failure =>
      have hrefused : command.refusal? session.buffer.length session.buffer.depth =
          some failure := by
        rw [h.length, h.depth]
        exact hrefusal
      rw [Obeys, run_call hblock, hrefusal,
        execute_eq_of_refused h.consistent (horderly.isCall hblock) hrefused]
      exact ⟨h, rfl⟩

/-! ### Blocks -/

/-- The end of a block fails where its commands have closed its transaction. -/
theorem KeptBy.obeys_block {ran : Protocol} {reached : Session} {body : List Command}
    {replies : List Reply} {refused : Option Failure} (h : ran.KeptBy reached)
    (hran : runAll body protocol.opened = (ran, refused))
    (hreached : executeAll (reactWithin bound) body
      { session with buffer := session.buffer.beginEditing } = (reached, replies, refused)) :
    Obeys bound (.editing body) protocol session := by
  have hsession : (execute (reactWithin bound) (.editing body) session).session =
      (reached.settle (reactWithin bound) reached.buffer.endEditing).1 := by
    simp only [execute, hreached]
    split <;> rfl
  have hfailure : (execute (reactWithin bound) (.editing body) session).failure? =
      ((reached.settle (reactWithin bound) reached.buffer.endEditing).2 <|> refused) := by
    simp only [execute, hreached]
    split
    · next hnone => exact hnone.symm
    · next hsome => exact hsome.symm
  rw [Obeys, hsession, hfailure]
  by_cases hopen : ran.depth = 0
  · have hend : reached.buffer.endEditing = .error ⟨.unmatchedEnd, reached.buffer.untouched⟩ := by
      rw [Buffer.endEditing, h.depth, hopen]
    have hclosed : (runAll body protocol.opened).1.depth = 0 := by
      rw [hran]
      exact hopen
    rw [run_of_closed hclosed, hran, hend]
    exact ⟨h, rfl⟩
  · have hstill : (runAll body protocol.opened).1.depth ≠ 0 := by
      rw [hran]
      exact hopen
    obtain ⟨hkept, hnone⟩ := h.obeys_end bound hopen
    rw [run_of_open hstill, hran, hnone]
    exact ⟨hkept, rfl⟩

mutual

/-- The induction is on the nesting of blocks. -/
theorem KeptBy.obeys (bound : Nat) :
    ∀ (command : Command) {protocol : Protocol} {session : Session},
      command.Every Command.Orderly → protocol.KeptBy session →
        Obeys bound command protocol session := by
  intro command protocol session horderly h
  cases command with
  | editing body =>
      obtain ⟨reached, replies, hexecuted, hkept⟩ :=
        KeptBy.exists_executeAll bound body horderly h.opened
      exact hkept.obeys_block rfl hexecuted
  | _ => exact h.obeys_call horderly nofun

theorem KeptBy.exists_executeAll (bound : Nat) :
    ∀ (commands : List Command) {protocol : Protocol} {session : Session},
      everyCommand Command.Orderly commands → protocol.KeptBy session →
        ∃ reached replies, executeAll (reactWithin bound) commands session =
            (reached, replies, (runAll commands protocol).2) ∧
          (runAll commands protocol).1.KeptBy reached
  | [], _, session, _, h => ⟨session, [], rfl, h⟩
  | command :: rest, protocol, session, horderly, h => by
      obtain ⟨hkept, hanswer⟩ := KeptBy.obeys bound command horderly.1 h
      cases hresult : (execute (reactWithin bound) command session).result with
      | error failure =>
          rw [Outcome.failure?, hresult] at hanswer
          rw [runAll_of_refused rest hanswer.symm, executeAll, hresult]
          exact ⟨_, [], rfl, hkept⟩
      | ok reply =>
          rw [Outcome.failure?, hresult] at hanswer
          rw [runAll_of_accepted rest hanswer.symm, executeAll, hresult]
          obtain ⟨reached, replies, hexecuted, hreached⟩ :=
            KeptBy.exists_executeAll bound rest horderly.2 hkept
          exact ⟨reached, reply :: replies, by rw [hexecuted], hreached⟩

end

/-! ### Runs -/

end Protocol

end MarkupEditor
