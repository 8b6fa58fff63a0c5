import MarkupEditor.Proofs.Session.Resting
import MarkupEditor.Proofs.Session.Separate

/-!
# Two replacements in either order

Two replacements of spans that do not touch lead to the same text and to the same runs in
either order, whether a pass follows on each of them or only on both.  In one transaction
they are also reported by the same event.
-/

namespace MarkupEditor

open RunList

/-- The coordinates of a span make a replacement of it. -/
theorem Command.mutation?_replace {location : Int} {span : Span} (h : location = span.start)
    (fragment : Fragment) (length : Nat) :
    Command.mutation? length (.replace [location, span.length] fragment) =
      some (.ok (.replaceCharacters span fragment)) := by
  subst h
  exact congrArg some (bind_eq_of_eq_ok (Span.ofInts_natCast span.start span.length) _)

namespace Session

variable {settings : Buffer} {chars : List Char} {cells : List AttributeSet} {session : Session}

/-- A session inside of the outermost transaction, with what is known of its buffer. -/
structure Waiting (settings : Buffer) (chars : List Char) (cells : List AttributeSet)
    (session : Session) : Prop where
  carries : settings.Carries chars cells session.buffer
  passive : session.Passive
  depth : session.buffer.depth = 1

/-- A replacement inside of a transaction. -/
theorem Waiting.exists_replace (h : session.Waiting settings chars cells) (react : React)
    {command : Command} {span : Span} {fragment : Fragment}
    (hmutation : command.mutation? chars.length = some (.ok (.replaceCharacters span fragment)))
    (hfits : (Mutation.replaceCharacters span fragment).Fits chars.length) :
    ∃ after, execute react command session = ⟨after, [], .ok .done⟩ ∧
      after.Waiting settings ((Mutation.replaceCharacters span fragment).onText chars)
        ((Mutation.replaceCharacters span fragment).onCells cells) ∧
      session.buffer.pending.record (attributeChange ||| characterChange) span
        ((fragment.length : Int) - span.length) = .ok after.buffer.pending ∧
      after.buffer.pending.mask ≠ 0 ∧ after.journal = session.journal := by
  have hlength : session.buffer.length = chars.length := congrArg List.length h.carries.text
  have hopen : session.buffer.depth ≠ 0 := by
    rw [h.depth]
    exact Nat.one_ne_zero
  rw [← hlength] at hmutation hfits
  obtain ⟨edited, hmutate, hedited⟩ := Buffer.exists_mutate h.carries.consistent hfits
  have hopened : edited.depth = session.buffer.depth + 1 := by rw [hedited.frame]
  have hreplaced := hmutate.trans (Buffer.endEditing_quiet hopened (.inl hopen))
  let after : Session :=
    { session with buffer := { edited with depth := session.buffer.depth } }
  have hexecute : execute react command session = ⟨after, [], .ok .done⟩ :=
    calc
      _ = Outcome.ofEdit react session (session.buffer.mutate (.replaceCharacters span fragment)) :=
        execute_edit hmutation
      _ = ⟨after, [], .ok .done⟩ := by
        rw [hreplaced]
        rfl
  exact ⟨after, hexecute,
    ⟨(h.carries.mutated hedited).reframe _ edited.pending edited.observers, h.passive, h.depth⟩,
    Buffer.record_of_replaceCharacters hopen hreplaced, hedited.mask_ne_zero, rfl⟩

/-- Two replacements in one transaction, which ends with a pass. -/
theorem Resting.exists_block (h : session.Resting settings chars cells)
    {first second : Command} {span span' : Span} {fragment fragment' : Fragment}
    {chars' : List Char}
    (hfirst : first.mutation? chars.length = some (.ok (.replaceCharacters span fragment)))
    (hfits : span.stop ≤ chars.length)
    (hchars' : (Mutation.replaceCharacters span fragment).onText chars = chars')
    (hsecond : second.mutation? chars'.length = some (.ok (.replaceCharacters span' fragment')))
    (hfits' : span'.stop ≤ chars'.length) :
    let block := session.run (.editing [first, second])
    ∃ recorded pending,
      session.buffer.pending.record (attributeChange ||| characterChange) span
        ((fragment.length : Int) - span.length) = .ok recorded ∧
      recorded.record (attributeChange ||| characterChange) span'
        ((fragment'.length : Int) - span'.length) = .ok pending ∧
      block.inner = [.done, .done] ∧
      block.session.Rested settings ((Mutation.replaceCharacters span' fragment').onText chars')
        ((Mutation.replaceCharacters span' fragment').onCells
          ((Mutation.replaceCharacters span fragment).onCells cells)) ∧
      events block.session.journal = pending.event :: events session.journal := by
  intro block
  let bound := session.reactionsLeft + (Command.editing [first, second]).reactions
  let opened : Session := { session with buffer := session.buffer.beginEditing }
  have hopened : opened.Waiting settings chars cells :=
    ⟨h.carries.reframe _ session.buffer.pending session.buffer.observers, h.passive,
      congrArg Nat.succ h.depth⟩
  obtain ⟨between, hexecute, hbetween, hrecord, -, hjournal⟩ :=
    hopened.exists_replace (reactWithin bound) hfirst hfits
  rw [hchars'] at hbetween
  obtain ⟨ran, hexecute', hran, hrecord', hmask, hjournal'⟩ :=
    hbetween.exists_replace (reactWithin bound) hsecond hfits'
  have hall : executeAll (reactWithin bound) [first, second] opened =
      (ran, [.done, .done], none) := by
    simp only [executeAll, hexecute, hexecute']
  obtain ⟨hinner, hsession⟩ := execute_block hall
  obtain ⟨hrested, hevents⟩ := rested_settle bound hran.carries hran.depth hmask hran.passive
  have hblock : block.session = (ran.settle (reactWithin bound) ran.buffer.endEditing).1 :=
    hsession
  rw [hblock]
  refine ⟨between.buffer.pending, ran.buffer.pending, hrecord, hrecord', hinner, hrested, ?_⟩
  rw [hevents, hjournal', hjournal]

section

variable {left right : Span} {fragment fragment' : Fragment} {first second moved : Command}

/-- Each of two replacements by itself, in either order. -/
theorem Resting.rested_runAll (h : session.Resting settings chars cells)
    (hapart : left.stop < right.start) (hright : right.stop ≤ chars.length)
    (hcells : right.stop ≤ cells.length)
    (hfirst : ∀ length, first.mutation? length = some (.ok (.replaceCharacters left fragment)))
    (hsecond : ∀ length,
      second.mutation? length = some (.ok (.replaceCharacters right fragment')))
    (hmoved : ∀ length, moved.mutation? length =
      some (.ok (.replaceCharacters (right.moved left fragment.length) fragment'))) :
    let chars' := left.replacedBoth right fragment.text fragment'.text chars
    let cells' := (Mutation.replaceCharacters (right.moved left fragment.length) fragment').onCells
      ((Mutation.replaceCharacters left fragment).onCells cells)
    (session.runAll [first, moved]).Rested settings chars' cells' ∧
      (session.runAll [second, first]).Rested settings chars' cells' := by
  intro chars' cells'
  have hfits : left.stop ≤ chars.length := Nat.le_trans (Nat.le_of_lt hapart)
    (Nat.le_trans (Nat.le_add_right _ _) hright)
  constructor
  · have hleft := h.run (hfirst _) hfits
    have hboth := hleft.toResting.run (hmoved _)
      (Mutation.fits_moved fragment fragment' hapart hright)
    rw [Mutation.onText_moved _ _ hapart hright] at hboth
    exact hboth
  · have hafter := h.run (hsecond _) hright
    have hboth := hafter.toResting.run (hfirst _)
      (Mutation.fits_kept fragment fragment' hapart hright)
    rw [Mutation.onText_kept _ _ hapart hright,
      ← Mutation.onCells_moved _ _ hapart hcells] at hboth
    exact hboth

/-- Both replacements in one transaction, in either order. -/
theorem Resting.rested_block (h : session.Resting settings chars cells)
    (hpending : session.buffer.pending = .none) (hapart : left.stop < right.start)
    (hright : right.stop ≤ chars.length) (hcells : right.stop ≤ cells.length)
    (hfirst : ∀ length, first.mutation? length = some (.ok (.replaceCharacters left fragment)))
    (hsecond : ∀ length,
      second.mutation? length = some (.ok (.replaceCharacters right fragment')))
    (hmoved : ∀ length, moved.mutation? length =
      some (.ok (.replaceCharacters (right.moved left fragment.length) fragment'))) :
    let chars' := left.replacedBoth right fragment.text fragment'.text chars
    let cells' := (Mutation.replaceCharacters (right.moved left fragment.length) fragment').onCells
      ((Mutation.replaceCharacters left fragment).onCells cells)
    let event := (Pending.both (attributeChange ||| characterChange) left right fragment.length
      fragment'.length).event
    ∀ commands ∈ [[first, moved], [second, first]],
      (session.run (.editing commands)).inner = [.done, .done] ∧
      (session.run (.editing commands)).session.Rested settings chars' cells' ∧
      events (session.run (.editing commands)).session.journal =
        event :: events session.journal := by
  intro chars' cells' event commands hcommands
  have hfits : left.stop ≤ chars.length := Nat.le_trans (Nat.le_of_lt hapart)
    (Nat.le_trans (Nat.le_add_right _ _) hright)
  rcases List.mem_pair.1 hcommands with rfl | rfl
  · obtain ⟨recorded, pending, hrecord, hrecord', hinner, hrested, hevents⟩ :=
      h.exists_block (hfirst _) hfits rfl (hmoved _)
        (Mutation.fits_moved fragment fragment' hapart hright)
    rw [hpending] at hrecord
    rw [Mutation.onText_moved _ _ hapart hright] at hrested
    rw [Pending.eq_both_of_moved hapart hrecord hrecord'] at hevents
    exact ⟨hinner, hrested, hevents⟩
  · obtain ⟨recorded, pending, hrecord, hrecord', hinner, hrested, hevents⟩ :=
      h.exists_block (hsecond _) hright rfl (hfirst _)
        (Mutation.fits_kept fragment fragment' hapart hright)
    rw [hpending] at hrecord
    rw [Mutation.onText_kept _ _ hapart hright,
      ← Mutation.onCells_moved _ _ hapart hcells] at hrested
    rw [Pending.eq_both_of_kept hapart hrecord hrecord'] at hevents
    exact ⟨hinner, hrested, hevents⟩

end

/-- Two spans that do not touch are replaced in either order, outside of transactions,
with nothing pending and with observers that only look; the right one has moved along when
it comes second.  Both orders lead to the same text and to the same runs, in transactions
of their own as in a common one, which is reported by the same event. -/
theorem alikeRuns_replace_separate (font : Value) (roles : Roles)
    (hreached : Reached (new (Buffer.new font roles)) session)
    (hdepth : session.buffer.depth = 0) (hpending : session.buffer.pending = .none)
    (hpassive : session.Passive) {left right : Span} (hapart : left.stop < right.start)
    (hright : right.stop ≤ session.buffer.length) (fragment fragment' : Fragment) :
    let replaceLeft := Command.replace [left.start, left.length] fragment
    let replaceRight := Command.replace [right.start, right.length] fragment'
    let replaceMoved := Command.replace
      [right.start + ((fragment.length : Int) - left.length), right.length] fragment'
    let text := session.buffer.text.take left.start ++ fragment.text ++
      (session.buffer.text.take right.start).drop left.stop ++ fragment'.text ++
      session.buffer.text.drop right.stop
    let event : Event := ⟨attributeChange ||| characterChange,
      ⟨left.start, fragment.length + (right.start - left.stop) + fragment'.length⟩,
      ((fragment.length : Int) - left.length) + ((fragment'.length : Int) - right.length)⟩
    let leftFirst := session.runAll [replaceLeft, replaceMoved]
    let rightFirst := session.runAll [replaceRight, replaceLeft]
    let leftFirst' := session.run (.editing [replaceLeft, replaceMoved])
    let rightFirst' := session.run (.editing [replaceRight, replaceLeft])
    (leftFirst.buffer.text = text ∧ rightFirst.buffer.text = text ∧
      AlikeRuns leftFirst.buffer.runs.runs rightFirst.buffer.runs.runs) ∧
    (leftFirst'.inner = [.done, .done] ∧ rightFirst'.inner = [.done, .done] ∧
      leftFirst'.session.buffer.text = text ∧ rightFirst'.session.buffer.text = text ∧
      AlikeRuns leftFirst'.session.buffer.runs.runs rightFirst'.session.buffer.runs.runs ∧
      events leftFirst'.session.journal = event :: events session.journal ∧
      events rightFirst'.session.journal = event :: events session.journal) := by
  intro replaceLeft replaceRight replaceMoved text event leftFirst rightFirst leftFirst' rightFirst'
  have hconsistent : session.buffer.Consistent :=
    keptByBuffers_consistent.reached hreached (Buffer.consistent_new font roles)
  have hresting : session.Resting session.buffer session.buffer.text session.buffer.runs.cells :=
    ⟨hconsistent.carries, hpassive, hdepth⟩
  have hcells : right.stop ≤ session.buffer.runs.cells.length := hconsistent.length_cells ▸ hright
  have hplace : (right.start : Int) + ((fragment.length : Int) - left.length) =
      (right.moved left fragment.length).start := by
    simp only [Span.moved, Span.stop] at hapart ⊢
    omega
  have hleft := Command.mutation?_replace (Eq.refl (left.start : Int)) fragment
  have hsecond := Command.mutation?_replace (Eq.refl (right.start : Int)) fragment'
  have hmoved := Command.mutation?_replace hplace fragment'
  obtain ⟨hleftFirst, hrightFirst⟩ :=
    hresting.rested_runAll hapart hright hcells hleft hsecond hmoved
  have hblocks := hresting.rested_block hpending hapart hright hcells hleft hsecond hmoved
  obtain ⟨hinner, hleftFirst', hevents⟩ := hblocks _ (List.mem_pair.2 (.inl rfl))
  obtain ⟨hinner', hrightFirst', hevents'⟩ := hblocks _ (List.mem_pair.2 (.inr rfl))
  refine ⟨⟨hleftFirst.carries.text, hrightFirst.carries.text, ?_⟩,
    hinner, hinner', hleftFirst'.carries.text, hrightFirst'.carries.text, ?_, hevents, hevents'⟩
  · exact hleftFirst.carries.alikeRuns hrightFirst.carries hleftFirst.colored hrightFirst.colored
  · exact hleftFirst'.carries.alikeRuns hrightFirst'.carries hleftFirst'.colored
      hrightFirst'.colored

/-- The name of a tag, and two characters behind the tag. -/
theorem alikeRuns_replace_separate_captioned :
    let leftFirst := [Command.replace [1, 1] (.plain ['e', 'm']), .replace [5, 2] (.plain ['u'])]
    let rightFirst := [Command.replace [4, 2] (.plain ['u']), .replace [1, 1] (.plain ['e', 'm'])]
    (captioned.runAll leftFirst).buffer.text = "<em>bud".toList ∧
      AlikeRuns (captioned.runAll leftFirst).buffer.runs.runs
        (captioned.runAll rightFirst).buffer.runs.runs ∧
      AlikeRuns (captioned.run (.editing leftFirst)).session.buffer.runs.runs
        (captioned.run (.editing rightFirst)).session.buffer.runs.runs ∧
      events (captioned.run (.editing rightFirst)).session.journal =
        ⟨attributeChange ||| characterChange, ⟨1, 5⟩, 0⟩ :: events captioned.journal := by
  intro leftFirst rightFirst
  have htext : captioned.buffer.text = "<b>bold".toList := by decide +kernel
  have hreached : Reached (new (Buffer.new hiddenFont .standard)) captioned :=
    reached_runAll (Reached.start.called 0 (.observe "log" [] 0)) _
  have hsilent : captioned.Silent := by
    have hall : captioned.reactions.all (fun known => known.2.body.isEmpty) = true := by
      decide +kernel
    intro known hknown
    exact List.isEmpty_iff.1 (List.all_eq_true.1 hall known hknown)
  have hapart : (Span.mk 1 1).stop < (Span.mk 4 2).start := by decide
  have hright : (Span.mk 4 2).stop ≤ captioned.buffer.length := by
    rw [Buffer.length, htext]
    decide
  have hdepth : captioned.buffer.depth = 0 := by decide +kernel
  have hpending : captioned.buffer.pending = .none := by decide +kernel
  -- The session is made opaque, so that it is not run to compare the commands.
  generalize captioned = session at *
  obtain ⟨⟨hleftFirst, -, halike⟩, -, -, -, -, halike', -, hevents⟩ :=
    alikeRuns_replace_separate hiddenFont .standard hreached hdepth hpending hsilent.passive
      hapart hright (.plain ['e', 'm']) (.plain ['u'])
  refine ⟨hleftFirst.trans ?_, halike, halike', hevents⟩
  rw [htext]
  rfl

end Session

end MarkupEditor
