import MarkupEditor.Proofs.Buffer.Beneath
import MarkupEditor.Proofs.Session.Passive
import MarkupEditor.Proofs.Session.Reached

/-!
# Edits one by one and in a block

Edits that are made one after another are followed by a pass each, those of a
block only by the pass at its end.  The attribute sets differ all the way, but
beneath the passes they are alike, and the last pass makes them so altogether.
-/

namespace MarkupEditor

open RunList

namespace Session

/-- No command of a run is refused. -/
def Succeeds : Session → List Command → Prop
  | _, [] => True
  | session, command :: rest =>
    (session.run command).failure? = none ∧ Succeeds (session.run command).session rest

/-- Two sessions on their way from the same one: in one of them every edit was made
by itself and reported by an event, in the other one all of them inside of a block. -/
structure Alongside (start : Session) (parts : List Event) (apart batch : Session) : Prop where
  consistent : apart.buffer.Consistent
  consistent' : batch.buffer.Consistent
  settings : apart.buffer.SameSettings batch.buffer
  cells : BeneathCells apart.buffer.runs.cells batch.buffer.runs.cells
  depth : apart.buffer.depth = 0
  depth' : batch.buffer.depth = 1
  passive : apart.Passive
  passive' : batch.Passive
  reported : events apart.journal = parts ++ events start.journal
  unreported : events batch.journal = events start.journal
  delta : batch.buffer.pending.delta =
    apart.buffer.pending.delta + (parts.map Event.delta).foldr (· + ·) 0
  mask : batch.buffer.pending.mask =
    apart.buffer.pending.mask ||| (parts.map Event.mask).foldr (· ||| ·) 0
  settled : parts ≠ [] → apart.buffer.Colored ∧ apart.buffer.pending = .none ∧
    batch.buffer.pending.mask ≠ 0

theorem alongside_start {session : Session} (h : session.buffer.Consistent)
    (hdepth : session.buffer.depth = 0) (hpassive : session.Passive) :
    Alongside session [] session { session with buffer := session.buffer.beginEditing } where
  consistent := h
  consistent' := ⟨h.canonical, h.length⟩
  settings := ⟨rfl, rfl, rfl, rfl⟩
  cells := (AlikeCells.refl _).beneath
  depth := hdepth
  depth' := congrArg Nat.succ hdepth
  passive := hpassive
  passive' := hpassive
  reported := rfl
  unreported := rfl
  delta := (Int.add_zero _).symm
  mask := (Nat.or_zero _).symm
  settled hparts := absurd rfl hparts

/-- An edit that succeeds by itself succeeds inside of the block as well. -/
theorem Alongside.step {start apart batch : Session} {parts : List Event}
    (h : Alongside start parts apart batch) (react : React) {command : Command}
    (hedits : command.Edits) (hsucceeds : (apart.run command).failure? = none) :
    ∃ event after, execute react command batch = ⟨after, [], .ok .done⟩ ∧
      Alongside start (event :: parts) (apart.run command).session after := by
  obtain ⟨mutation, hmutation, hfits⟩ := exists_mutation_of_succeeds hedits hsucceeds
  obtain ⟨edited, runs, observers, reported, hedited, hpassed, hrun, hbuffer, hevents, hpassive⟩ :=
    exists_execute_outermost (apart.reactionsLeft + command.reactions) h.consistent h.passive
      hmutation hfits h.depth
  have hlength : apart.buffer.length = batch.buffer.length :=
    congrArg List.length h.settings.text
  have hopen : batch.buffer.depth ≠ 0 := by
    rw [h.depth']
    exact Nat.one_ne_zero
  rw [hlength] at hmutation hfits
  obtain ⟨edited', hedited', hexecute⟩ :=
    exists_execute_nested react h.consistent' hmutation hfits hopen
  have hsettings : edited.SameSettings edited' := h.settings.mutated hedited hedited'
  have hcells : BeneathCells edited.runs.cells edited'.runs.cells :=
    hedited.runs.alike.beneath.trans
      ((mutation.beneathCells_onCells h.cells).trans hedited'.runs.alike.beneath.symm)
  have hconsistent : reported.buffer.Consistent :=
    hrun ▸ keptByBuffers_consistent.execute _ command h.consistent
  refine ⟨edited.pending.event, _, hexecute, ?_⟩
  rw [run, hrun]
  constructor
  case consistent => exact hconsistent
  case consistent' => exact ⟨hedited'.consistent.canonical, hedited'.consistent.length⟩
  case settings =>
    rw [hbuffer]
    exact ⟨hsettings.text, hsettings.font, hsettings.palette, hsettings.roles⟩
  case cells =>
    rw [hbuffer]
    exact (hpassed.beneathCells hedited.consistent).trans hcells
  case depth => rw [hbuffer]
  case depth' => exact h.depth'
  case passive => exact hpassive
  case passive' => exact h.passive'
  case reported => rw [hevents, h.reported, List.cons_append]
  case unreported => exact h.unreported
  case delta =>
    have hdelta := hedited.delta
    have hdelta' := hedited'.delta
    have hearlier := h.delta
    rw [hbuffer, List.map_cons, List.foldr_cons]
    simp only [Pending.event, Pending.none]
    omega
  case mask =>
    rw [hbuffer, List.map_cons, List.foldr_cons]
    change edited'.pending.mask = 0 ||| (edited.pending.mask ||| _)
    rw [hedited'.mask, hedited.mask, h.mask, Nat.zero_or]
    ac_rfl
  case settled =>
    intro _
    rw [hbuffer]
    exact ⟨hpassed.colored hedited.consistent ⟨rfl, rfl, rfl, rfl⟩, rfl, hedited'.mask_ne_zero⟩

/-- The induction is on the edits still to be made. -/
theorem Alongside.runAll {start apart batch : Session} {parts : List Event}
    (h : Alongside start parts apart batch) (react : React) {commands : List Command}
    (hedits : ∀ command ∈ commands, command.Edits) (hsucceeds : apart.Succeeds commands) :
    ∃ later after replies, executeAll react commands batch = (after, replies, none) ∧
      Alongside start (later ++ parts) (apart.runAll commands) after ∧
      later.length = commands.length ∧ replies.length = commands.length := by
  induction commands generalizing apart batch parts with
  | nil => exact ⟨[], batch, [], rfl, h, rfl, rfl⟩
  | cons command rest ih =>
      obtain ⟨event, after, hexecute, halong⟩ :=
        h.step react (hedits command (List.mem_cons_self ..)) hsucceeds.1
      obtain ⟨later, last, replies, hrest, hlast, hlater, hreplies⟩ :=
        ih halong (fun other hother => hedits other (List.mem_cons_of_mem _ hother)) hsucceeds.2
      refine ⟨later ++ [event], last, .done :: replies, ?_, ?_, ?_, ?_⟩
      · simp only [executeAll, hexecute, hrest]
      · rw [List.append_assoc]
        exact hlast
      · rw [List.length_append, hlater]
        rfl
      · exact congrArg Nat.succ hreplies

/-- The end of the block makes alike what has been alike beneath. -/
theorem Alongside.close {start apart batch : Session} {parts : List Event}
    (h : Alongside start parts apart batch) (hparts : parts ≠ []) (bound : Nat) :
    let closed := (batch.settle (reactWithin bound) batch.buffer.endEditing).1
    closed.buffer.text = apart.buffer.text ∧
      AlikeRuns closed.buffer.runs.runs apart.buffer.runs.runs ∧
      ∃ whole, events closed.journal = whole :: events start.journal ∧
        whole.delta = (parts.map Event.delta).foldr (· + ·) 0 ∧
        whole.mask = (parts.map Event.mask).foldr (· ||| ·) 0 := by
  intro closed
  obtain ⟨hcolored, hpending, hmask⟩ := h.settled hparts
  obtain ⟨runs, observers, hpassed, hbuffer, hevents, -⟩ :=
    exists_settle_outermost bound h.consistent' h.depth' hmask h.passive'
  have hlast : closed.buffer.Colored := by
    rw [hbuffer]
    exact hpassed.colored h.consistent' ⟨rfl, rfl, rfl, rfl⟩
  have hsettings : closed.buffer.SameSettings apart.buffer := by
    have hbatch := h.settings.symm
    rw [hbuffer]
    exact ⟨hbatch.text, hbatch.font, hbatch.palette, hbatch.roles⟩
  have hcells : BeneathCells closed.buffer.runs.cells apart.buffer.runs.cells := by
    rw [hbuffer]
    exact (hpassed.beneathCells h.consistent').trans h.cells.symm
  refine ⟨hsettings.text, hlast.alikeRuns hcolored hsettings hcells, batch.buffer.pending.event,
    ?_, ?_, ?_⟩
  · rw [hevents, h.unreported]
  · have hdelta := h.delta
    rw [hpending] at hdelta
    exact hdelta.trans (Int.zero_add _)
  · have hmasks := h.mask
    rw [hpending] at hmasks
    exact hmasks.trans (Nat.zero_or _)

/-- Edits that succeed one by one, outside of transactions and with observers that
only look, succeed in a block as well, and leave the same text and the same runs.
The one event of the block has the change of length of all their events together,
and their kinds of change. -/
theorem alikeRuns_run_editing (font : Value) (roles : Roles) {session : Session}
    (hreached : Reached (new (Buffer.new font roles)) session)
    (hdepth : session.buffer.depth = 0) (hpassive : session.Passive) {commands : List Command}
    (hcommands : commands ≠ []) (hedits : ∀ command ∈ commands, command.Edits)
    (hsucceeds : session.Succeeds commands) :
    let apart := session.runAll commands
    let batch := session.run (.editing commands)
    batch.inner.length = commands.length ∧
      batch.session.buffer.text = apart.buffer.text ∧
      AlikeRuns batch.session.buffer.runs.runs apart.buffer.runs.runs ∧
      ∃ parts whole, events apart.journal = parts ++ events session.journal ∧
        parts.length = commands.length ∧
        events batch.session.journal = whole :: events session.journal ∧
        whole.delta = (parts.map Event.delta).foldr (· + ·) 0 ∧
        whole.mask = (parts.map Event.mask).foldr (· ||| ·) 0 := by
  intro apart batch
  let bound := session.reactionsLeft + (Command.editing commands).reactions
  have hconsistent : session.buffer.Consistent :=
    keptByBuffers_consistent.reached hreached (Buffer.consistent_new font roles)
  obtain ⟨parts, ran, replies, hran, halong, hparts, hreplies⟩ :=
    (alongside_start hconsistent hdepth hpassive).runAll (reactWithin bound) hedits hsucceeds
  rw [List.append_nil] at halong
  have hsome : parts ≠ [] := by
    rintro rfl
    exact hcommands (List.length_eq_zero_iff.1 hparts.symm)
  obtain ⟨htext, hruns, whole, hevents, hdelta, hmask⟩ := halong.close hsome bound
  obtain ⟨hinner, hsession⟩ := execute_block hran
  have hclosed : batch.session = (ran.settle (reactWithin bound) ran.buffer.endEditing).1 :=
    hsession
  rw [hclosed]
  exact ⟨hinner ▸ hreplies, htext, hruns, parts, whole, halong.reported, hparts, hevents, hdelta,
    hmask⟩

/-- A session with an observer that asks for the length and, in a block, for the
styling of the first character. -/
def logging : Session :=
  (new (Buffer.new hiddenFont .standard)).observe "log" [.length, .editing [.attributesAt 0]] 3

/-- Plain and styled text, and a deletion. -/
def taggedEdits : List Command :=
  [.setText (.plain "<p>".toList),
    .append (.styled "one".toList ((∅ : AttributeSet).insert "title" (.text "first"))),
    .delete [0, 1]]

theorem alikeRuns_run_editing_taggedEdits :
    logging.Succeeds taggedEdits ∧
      AlikeRuns (logging.run (.editing taggedEdits)).session.buffer.runs.runs
        (logging.runAll taggedEdits).buffer.runs.runs := by
  have hreached : Reached (new (Buffer.new hiddenFont .standard)) logging :=
    Reached.start.called 0 (.observe "log" [.length, .editing [.attributesAt 0]] 3)
  have hpassive : logging.Passive := by
    intro known hknown
    rw [List.mem_singleton.1 hknown]
    exact ⟨trivial, ⟨trivial, trivial⟩, trivial⟩
  have hedits : ∀ command ∈ taggedEdits, command.Edits := by
    simp [taggedEdits, Command.Edits]
  have hsucceeds : logging.Succeeds taggedEdits :=
    ⟨by decide +kernel, by decide +kernel, by decide +kernel, trivial⟩
  have hsome : taggedEdits ≠ [] := List.cons_ne_nil _ _
  obtain ⟨-, -, hruns, -⟩ :=
    alikeRuns_run_editing hiddenFont .standard hreached rfl hpassive hsome hedits hsucceeds
  exact ⟨hsucceeds, hruns⟩

end Session

end MarkupEditor
