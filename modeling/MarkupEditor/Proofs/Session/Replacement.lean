import MarkupEditor.Proofs.Buffer.Beneath
import MarkupEditor.Proofs.Session.Reached
import MarkupEditor.Proofs.Session.Silent

/-!
# Replacing the characters of a span

A replacement outside of transactions puts the new text in the place of the span and
gives each of its characters the attributes that the text brings along.  All other
characters keep theirs, but for the font and the color, which the pass sets anew, and
every observer is told of the new text once.
-/

namespace MarkupEditor

open RunList

namespace RunList

/-- Every cell has its counterpart. -/
theorem BeneathCells.exists_getElem? {left right : List AttributeSet}
    (h : BeneathCells left right) {index : Nat} {cell : AttributeSet}
    (hcell : right[index]? = some cell) :
    ∃ cell', left[index]? = some cell' ∧ cell'.AlikeBeneath cell := by
  induction h generalizing index with
  | nil => cases hcell
  | cons halike _ ih =>
      cases index with
      | zero =>
          cases hcell
          exact ⟨_, rfl, halike⟩
      | succ index => exact ih hcell

/-! ### Cells around a replaced span -/

section

variable {cells : List AttributeSet} {span : Span} (part : List AttributeSet) {place : Nat}

theorem getElem?_onSpan_before (hspan : span.stop ≤ cells.length) (hplace : place < span.start) :
    (Operation.onSpan cells span fun _ => part)[place]? = cells[place]? := by
  have hstart : span.start ≤ cells.length := Nat.le_trans (Nat.le_add_right _ _) hspan
  have hbefore : place < (cells.take span.start).length := by
    rwa [List.length_take_of_le hstart]
  rw [Operation.onSpan, List.append_assoc, List.getElem?_append_left hbefore,
    List.getElem?_take_of_lt hplace]

theorem getElem?_onSpan_inside (hspan : span.stop ≤ cells.length) (hplace : place < part.length) :
    (Operation.onSpan cells span fun _ => part)[span.start + place]? = part[place]? := by
  have hstart : span.start ≤ cells.length := Nat.le_trans (Nat.le_add_right _ _) hspan
  have hbefore : (cells.take span.start).length = span.start := List.length_take_of_le hstart
  rw [Operation.onSpan, List.append_assoc, List.getElem?_append_right (by omega), hbefore,
    Nat.add_sub_cancel_left, List.getElem?_append_left hplace]

theorem getElem?_onSpan_behind (hspan : span.stop ≤ cells.length) (place : Nat) :
    (Operation.onSpan cells span fun _ => part)[span.start + part.length + place]? =
      cells[span.stop + place]? := by
  have hstart : span.start ≤ cells.length := Nat.le_trans (Nat.le_add_right _ _) hspan
  have hbefore : (cells.take span.start ++ part).length = span.start + part.length := by
    rw [List.length_append, List.length_take_of_le hstart]
  rw [Operation.onSpan, List.getElem?_append_right (by omega), hbefore, Nat.add_sub_cancel_left,
    List.getElem?_drop]

end

end RunList

/-- The first edit recorded is reported as it is, with its span as it is afterwards. -/
theorem Pending.event_of_record_none {mask length : Nat} {span : Span} {delta : Int}
    (hlength : span.length + delta = length) {recorded : Pending}
    (h : Pending.none.record mask span delta = .ok recorded) :
    recorded.event = ⟨mask, ⟨span.start, length⟩, delta⟩ := by
  rw [record, hlength, Span.ofInts_natCast] at h
  cases h
  simp only [event, Pending.none, Nat.zero_or, Int.zero_add, Option.getD_some]

namespace Buffer

variable {buffer : Buffer} {span : Span}

/-- A look-up at an offset finds an attribute set. -/
def Finds (buffer : Buffer) (offset : Nat) (attributes : AttributeSet) : Prop :=
  ∃ found, buffer.attributesAt offset = .ok (attributes, found)

/-- The attribute set that a fragment brings to the place of a span.  Styled text has its
own; plain text takes over that of the first character it replaces, else of the character
before it, else of the first one, and has none in an empty text. -/
def Brings (buffer : Buffer) (span : Span) (attributes : AttributeSet) : Fragment → Prop
  | .styled _ own => attributes = own
  | .plain _ =>
    if buffer.text = [] then attributes = ∅
    else if 0 < span.length then buffer.Finds span.start attributes
    else if 0 < span.start then buffer.Finds (span.start - 1) attributes
    else buffer.Finds 0 attributes

theorem Consistent.finds (h : buffer.Consistent) {offset : Nat} {attributes : AttributeSet}
    (hcell : buffer.runs.cells[offset]? = some attributes) : buffer.Finds offset attributes := by
  have hlt : offset < buffer.length := by
    rw [← h.length_cells]
    exact (List.getElem?_eq_some_iff.1 hcell).1
  obtain ⟨attributes', found, hfound, hcell'⟩ := h.exists_attributesAt hlt
  cases hcell.symm.trans hcell'
  exact ⟨found, hfound⟩

theorem Consistent.exists_cell (h : buffer.Consistent) {offset : Nat}
    (hoffset : offset < buffer.length) :
    ∃ attributes, buffer.runs.cells[offset]? = some attributes := by
  obtain ⟨attributes, -, -, hcell⟩ := h.exists_attributesAt hoffset
  exact ⟨attributes, hcell⟩

/-- In a text that is not empty, plain text inherits from a character of it. -/
theorem brings_carriedCell (h : buffer.Consistent) (hspan : span.stop ≤ buffer.length)
    (fragment : Fragment) :
    buffer.Brings span (carriedCell buffer.runs.cells span fragment) fragment := by
  cases fragment with
  | styled text attributes => rfl
  | plain text =>
      rw [Brings, carriedCell, inheritedCell]
      have hfinds {offset : Nat} (hlt : offset < buffer.length) :
          buffer.Finds offset (buffer.runs.cells[offset]?.getD ∅) := by
        obtain ⟨attributes, hcell⟩ := h.exists_cell hlt
        rw [hcell]
        exact h.finds hcell
      rw [Span.stop] at hspan
      split
      · next hempty =>
        have hcells : buffer.runs.cells = [] := by
          rw [← List.length_eq_zero_iff, h.length_cells, Buffer.length, hempty]
          rfl
        rw [hcells]
        rfl
      · next htext =>
        have hlength : 0 < buffer.length := List.length_pos_iff.2 htext
        split
        · next hsome =>
          rw [if_pos (Nat.ne_of_gt hsome)]
          exact hfinds (by omega)
        · next hnone =>
          rw [if_neg (not_not_intro (Nat.eq_zero_of_not_pos hnone))]
          split
          · exact hfinds (by omega)
          · next hstart =>
            rw [Nat.eq_zero_of_not_pos hstart]
            exact hfinds hlength

/-- A replacement that succeeds has been recorded before its transaction ended. -/
theorem exists_record_of_replaceCharacters {fragment : Fragment} {after : Buffer}
    {notice : Option Notice} (h : buffer.replaceCharacters span fragment = .ok (after, notice)) :
    ∃ edited : Buffer, edited.depth = buffer.depth + 1 ∧
      buffer.pending.record (attributeChange ||| characterChange) span
        ((fragment.length : Int) - span.length) = .ok edited.pending ∧
      edited.endEditing = .ok (after, notice) := by
  obtain ⟨-, -, hwithin⟩ := exists_of_bind_eq_ok h
  obtain ⟨attributes, -, htransact⟩ := exists_of_bind_eq_ok hwithin
  obtain ⟨edited, hedited, hend⟩ := exists_of_transact_eq_ok htransact
  obtain ⟨spliced, hsplice, hrecord⟩ := exists_of_bind_eq_ok hedited
  obtain ⟨runs, -, rfl⟩ := exists_runs_of_restyle hsplice
  obtain ⟨recorded, hrecorded, hresult⟩ := exists_of_bind_eq_ok hrecord
  cases hresult
  refine ⟨_, ?_, ?_, hend⟩
  · rfl
  · exact eq_ok_of_leaving hrecorded

/-- With nothing pending, a replacement is reported as it is. -/
theorem event_of_replaceCharacters (hpending : buffer.pending = .none) {fragment : Fragment}
    {after : Buffer} {notice : Notice}
    (h : buffer.replaceCharacters span fragment = .ok (after, some notice)) :
    notice.event = ⟨attributeChange ||| characterChange, ⟨span.start, fragment.length⟩,
      (fragment.length : Int) - span.length⟩ := by
  obtain ⟨edited, -, hrecorded, hend⟩ := exists_record_of_replaceCharacters h
  rw [hpending] at hrecorded
  obtain ⟨depth, -, ⟨-, -, hnone⟩ | ⟨-, -, spans, -, hnotice⟩⟩ := endEditing_cases hend
  · cases hnone
  · cases hnotice
    exact Pending.event_of_record_none (by omega) hrecorded

/-- Inside of a transaction a replacement stays recorded. -/
theorem record_of_replaceCharacters (hdepth : buffer.depth ≠ 0) {fragment : Fragment}
    {after : Buffer} {notice : Option Notice}
    (h : buffer.replaceCharacters span fragment = .ok (after, notice)) :
    buffer.pending.record (attributeChange ||| characterChange) span
      ((fragment.length : Int) - span.length) = .ok after.pending := by
  obtain ⟨edited, hopened, hrecorded, hend⟩ := exists_record_of_replaceCharacters h
  obtain ⟨depth, hopened', ⟨-, rfl, -⟩ | ⟨hzero, -⟩⟩ := endEditing_cases hend
  · exact hrecorded
  · exact absurd (Nat.succ.inj ((hopened.symm.trans hopened').trans (congrArg Nat.succ hzero)))
      hdepth

/-- Look-ups in two buffers, each at its own offset, find the same attributes but for the
font and the color. -/
def SameBeneath (buffer : Buffer) (offset : Nat) (other : Buffer) (offset' : Nat) : Prop :=
  ∃ attributes attributes', buffer.Finds offset attributes ∧ other.Finds offset' attributes' ∧
    attributes.AlikeBeneath attributes'

theorem Consistent.sameBeneath (h : buffer.Consistent) {other : Buffer} (hother : other.Consistent)
    {cells : List AttributeSet} (hcells : BeneathCells buffer.runs.cells cells)
    {offset offset' : Nat} (hsame : cells[offset]? = other.runs.cells[offset']?)
    (hoffset' : offset' < other.length) : buffer.SameBeneath offset other offset' := by
  obtain ⟨attributes', hcell'⟩ := hother.exists_cell hoffset'
  obtain ⟨attributes, hcell, halike⟩ := hcells.exists_getElem? (hsame.trans hcell')
  exact ⟨attributes, attributes', h.finds hcell, hother.finds hcell', halike⟩

end Buffer

namespace Session

variable {session : Session} {span : Span}

/-- A replacement outside of transactions, with observers that only take note.  The text
has the new characters in the place of the span.  But for the font and the color, these
have the attributes that they bring along, and the characters before and behind the span
have theirs.  The event, reported to every observer once, tells what has changed, where
the new characters are and by how many the text has grown. -/
theorem exists_run_replace (font : Value) (roles : Roles)
    (hreached : Reached (new (Buffer.new font roles)) session)
    (hdepth : session.buffer.depth = 0) (hpending : session.buffer.pending = .none)
    (hsilent : session.Silent) (hspan : span.stop ≤ session.buffer.length)
    (fragment : Fragment) :
    ∃ after inserted,
      session.run (.replace [span.start, span.length] fragment) = ⟨after, [], .ok .done⟩ ∧
      after.buffer = { session.buffer with text := after.buffer.text, runs := after.buffer.runs } ∧
      after.buffer.text = session.buffer.text.take span.start ++ fragment.text ++
        session.buffer.text.drop span.stop ∧
      session.buffer.Brings span inserted fragment ∧
      (∀ place < span.start, after.buffer.SameBeneath place session.buffer place) ∧
      (∀ place < fragment.length, ∃ attributes,
        after.buffer.Finds (span.start + place) attributes ∧ attributes.AlikeBeneath inserted) ∧
      (∀ place, span.stop + place < session.buffer.length →
        after.buffer.SameBeneath (span.start + fragment.length + place)
          session.buffer (span.stop + place)) ∧
      let event : Event := ⟨attributeChange ||| characterChange, ⟨span.start, fragment.length⟩,
        (fragment.length : Int) - span.length⟩
      after.journal = notices event session.buffer.observers ++
        .processed event after.buffer.text ::
          .pass after.buffer.length (after.buffer.roles.classify after.buffer.text).length ::
            session.journal := by
  have hconsistent : session.buffer.Consistent :=
    keptByBuffers_consistent.reached hreached (Buffer.consistent_new font roles)
  have hmutation : Command.mutation? session.buffer.length
      (.replace [span.start, span.length] fragment) =
        some (.ok (.replaceCharacters span fragment)) :=
    congrArg some (bind_eq_of_eq_ok (Span.ofInts_natCast span.start span.length) _)
  obtain ⟨edited, runs, after, hmutate, hedited, hpassed, hrun, hbuffer, hjournal, -⟩ :=
    hsilent.exists_execute_outermost (idle_reactWithin _) hconsistent hmutation hspan hdepth
  have hframe : { edited with depth := 0, pending := .none, runs := runs } =
      { session.buffer with text := edited.text, runs := runs } := by
    rw [hedited.frame, ← hdepth, ← hpending]
  have hafter : after.buffer.Consistent := by
    have hedit : session.buffer.Edit (session.buffer.mutate (.replaceCharacters span fragment)) :=
      .replaceCharacters span fragment
    have hkept := keptByBuffers_consistent.edit hedit hconsistent
    rw [hmutate] at hkept
    rw [hbuffer]
    exact hkept
  -- The pass changes nothing beneath it, so the cells are those that the edit has left.
  have hcells : BeneathCells after.buffer.runs.cells
      (Operation.onSpan session.buffer.runs.cells span fun _ =>
        List.replicate fragment.length
          (carriedCell session.buffer.runs.cells span fragment)) := by
    rw [hbuffer]
    exact (hpassed.beneathCells hedited.consistent).trans hedited.runs.alike.beneath
  have hfits : span.stop ≤ session.buffer.runs.cells.length := by
    rwa [hconsistent.length_cells]
  refine ⟨after, carriedCell session.buffer.runs.cells span fragment, hrun, ?_, ?_,
    Buffer.brings_carriedCell hconsistent hspan fragment, ?_, ?_, ?_, ?_⟩
  · rw [hbuffer, hframe]
  · rw [hbuffer]
    exact hedited.text.trans (Text.replaceSpan_eq _ _ _ _)
  · intro place hplace
    have hlt : place < session.buffer.length := by
      rw [Span.stop] at hspan
      omega
    exact hafter.sameBeneath hconsistent hcells (getElem?_onSpan_before _ hfits hplace) hlt
  · intro place hplace
    have hlt : place < (List.replicate fragment.length
        (carriedCell session.buffer.runs.cells span fragment)).length := by
      rwa [List.length_replicate]
    have hinside := getElem?_onSpan_inside _ hfits hlt
    rw [List.getElem?_replicate_of_lt hplace] at hinside
    obtain ⟨attributes, hcell, halike⟩ := hcells.exists_getElem? hinside
    exact ⟨attributes, hafter.finds hcell, halike⟩
  · intro place hplace
    have hbehind := getElem?_onSpan_behind (List.replicate fragment.length
      (carriedCell session.buffer.runs.cells span fragment)) hfits place
    rw [List.length_replicate] at hbehind
    exact hafter.sameBeneath hconsistent hcells hbehind hplace
  · intro event
    have hevent : edited.pending.event = event :=
      Buffer.event_of_replaceCharacters hpending hmutate
    rw [hjournal, hevent, hbuffer, hedited.frame]
    rfl

/-- A session whose text, of two styles, an observer has been told of. -/
def captioned : Session :=
  ((new (Buffer.new hiddenFont .standard)).observe "log" [] 0).runAll
    [.setText (.plain "<b>".toList),
      .append (.styled "bold".toList ((∅ : AttributeSet).insert "title" (.text "first")))]

/-- Plain text over the end of the one style and the start of the other. -/
theorem exists_run_replace_captioned :
    captioned.buffer.text = "<b>bold".toList ∧
      ∃ after inserted, captioned.run (.replace [2, 3] (.plain "i>".toList)) =
          ⟨after, [], .ok .done⟩ ∧
        after.buffer.text = "<bi>ld".toList ∧
        captioned.buffer.Brings ⟨2, 3⟩ inserted (.plain "i>".toList) := by
  have htext : captioned.buffer.text = "<b>bold".toList := by decide +kernel
  have hreached : Reached (new (Buffer.new hiddenFont .standard)) captioned :=
    reached_runAll (Reached.start.called 0 (.observe "log" [] 0)) _
  have hsilent : captioned.Silent := by
    have hall : captioned.reactions.all (fun known => known.2.body.isEmpty) = true := by
      decide +kernel
    intro known hknown
    exact List.isEmpty_iff.1 (List.all_eq_true.1 hall known hknown)
  have hspan : (Span.mk 2 3).stop ≤ captioned.buffer.length := by
    rw [Buffer.length, htext]
    decide
  obtain ⟨after, inserted, hrun, -, hafter, hbrings, -⟩ :=
    exists_run_replace hiddenFont .standard hreached (by decide +kernel) (by decide +kernel)
      hsilent hspan (.plain "i>".toList)
  refine ⟨htext, after, inserted, hrun, ?_, ?_⟩
  · rw [hafter, htext]
    rfl
  · assumption

end Session

end MarkupEditor
