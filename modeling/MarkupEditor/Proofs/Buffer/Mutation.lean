import MarkupEditor.Proofs.Buffer.Account
import MarkupEditor.Proofs.Buffer.PassAttributes

/-!
# What an edit does

Every edit that fits the text does three things inside of its transaction: it
changes the text, it changes the attribute sets of the characters, and it records
its kinds of change and its change of length.  Then the transaction ends: quietly
inside of another one, with a pass if it was the outermost.
-/

namespace MarkupEditor

open RunList

/-- A call that edits a buffer in a transaction of its own. -/
inductive Mutation where
  | replaceCharacters (span : Span) (fragment : Fragment)
  | setAttributes (span : Span) (attributes : AttributeSet)
  | recolorize

/-- The attribute set that plain text finds where it goes: that of the first
character it replaces, else of the character before it, else of the first one. -/
def inheritedCell (cells : List AttributeSet) (span : Span) : AttributeSet :=
  cells[if span.length ≠ 0 then span.start else span.start - 1]?.getD ∅

/-- The attribute set that a fragment carries when it replaces a span. -/
def carriedCell (cells : List AttributeSet) (span : Span) : Fragment → AttributeSet
  | .plain _ => inheritedCell cells span
  | .styled _ attributes => attributes

namespace Mutation

/-- What a mutation asks of the length of the text. -/
def Fits (length : Nat) : Mutation → Prop
  | replaceCharacters span _ | setAttributes span _ => span.stop ≤ length
  | recolorize => True

def onText (text : List Char) : Mutation → List Char
  | replaceCharacters span fragment =>
    Text.replaceSpan span.start span.length fragment.text text
  | _ => text

def onCells (cells : List AttributeSet) : Mutation → List AttributeSet
  | replaceCharacters span fragment =>
    Operation.onSpan cells span fun _ =>
      List.replicate fragment.length (carriedCell cells span fragment)
  | setAttributes span attributes =>
    Operation.onSpan cells span (List.map fun _ => attributes)
  | recolorize => cells

/-- The kinds of change. -/
def mask : Mutation → Nat
  | replaceCharacters _ _ => attributeChange ||| characterChange
  | _ => attributeChange

/-- The change of length. -/
def delta : Mutation → Int
  | replaceCharacters span fragment => (fragment.length : Int) - span.length
  | _ => 0

theorem mask_ne_zero (mutation : Mutation) : mutation.mask ≠ 0 := by
  cases mutation with
  | replaceCharacters span fragment =>
      change attributeChange ||| characterChange ≠ 0
      decide
  | setAttributes span attributes => exact Nat.one_ne_zero
  | recolorize => exact Nat.one_ne_zero

end Mutation

/-- An edit is recorded whatever was recorded before, unless it would leave a
negative number of characters. -/
theorem Pending.exists_record_of_nonneg (pending : Pending) (mask : Nat) (span : Span)
    (delta : Int) (h : 0 ≤ span.length + delta) :
    ∃ recorded, pending.record mask span delta = .ok recorded ∧
      recorded.mask = pending.mask ||| mask ∧ recorded.delta = pending.delta + delta := by
  obtain ⟨newLength, hlength⟩ := Int.eq_ofNat_of_zero_le h
  cases hspan : pending.span with
  | none => exact ⟨_, record_of_none hspan hlength.symm mask, rfl, rfl⟩
  | some earlier =>
      obtain ⟨hull, hrecord, -⟩ := exists_record_of_some hspan hlength.symm mask
      exact ⟨_, hrecord, rfl, rfl⟩

namespace Buffer

variable {buffer : Buffer}

theorem exists_recordEdit (buffer : Buffer) (mask : Nat) (span : Span) (delta : Int)
    (h : 0 ≤ span.length + delta) :
    ∃ recorded, buffer.recordEdit mask span delta = .ok { buffer with pending := recorded } ∧
      recorded.mask = buffer.pending.mask ||| mask ∧
      recorded.delta = buffer.pending.delta + delta := by
  obtain ⟨recorded, hrecorded, hmask, hdelta⟩ :=
    buffer.pending.exists_record_of_nonneg mask span delta h
  exact ⟨recorded, leaving_bind_eq_of_eq_ok hrecorded _, hmask, hdelta⟩

def mutate (buffer : Buffer) : Mutation → Attempt Edited Edited
  | .replaceCharacters span fragment => buffer.replaceCharacters span fragment
  | .setAttributes span attributes => buffer.setAttributes span attributes
  | .recolorize => buffer.recolorize

/-- What a mutation leaves inside of its transaction. -/
structure Mutated (buffer : Buffer) (mutation : Mutation) (edited : Buffer) : Prop where
  consistent : edited.Consistent
  text : edited.text = mutation.onText buffer.text
  runs : edited.runs.Represents (mutation.onCells buffer.runs.cells)
  stored : edited.runs.cells ⊆ mutation.onCells buffer.runs.cells
  mask : edited.pending.mask = buffer.pending.mask ||| mutation.mask
  delta : edited.pending.delta = buffer.pending.delta + mutation.delta
  frame : edited = { buffer with
    text := edited.text, runs := edited.runs, depth := buffer.depth + 1, pending := edited.pending }

theorem Mutated.mask_ne_zero {mutation : Mutation} {edited : Buffer}
    (h : buffer.Mutated mutation edited) : edited.pending.mask ≠ 0 := by
  rw [h.mask]
  intro hzero
  exact mutation.mask_ne_zero (Nat.or_eq_zero_iff.1 hzero).2

/-- The change of length recorded is that of the text. -/
theorem Mutated.length {mutation : Mutation} {edited : Buffer}
    (h : buffer.Mutated mutation edited) (hfits : mutation.Fits buffer.length) :
    edited.length = (buffer.length + mutation.delta).toNat := by
  have hsame : buffer.length = (buffer.length + (0 : Int)).toNat := by omega
  rw [Buffer.length, h.text]
  cases mutation with
  | replaceCharacters span fragment =>
      have hspan : span.start + span.length ≤ buffer.text.length := hfits
      simp only [Mutation.onText, Mutation.delta, Text.replaceSpan_eq, List.length_append,
        List.length_take, List.length_drop, Fragment.length, Buffer.length]
      omega
  | setAttributes span attributes => exact hsame
  | recolorize => exact hsame

theorem inherited_eq (h : buffer.Consistent) {span : Span} (hspan : span.stop ≤ buffer.length) :
    buffer.inherited span = .ok (inheritedCell buffer.runs.cells span) := by
  rw [inherited, inheritedCell]
  split
  · next hempty =>
    have hcells : buffer.runs.cells = [] := by
      rw [← List.length_eq_zero_iff, h.length_cells, Buffer.length, List.isEmpty_iff.1 hempty]
      rfl
    rw [hcells]
    rfl
  · next htext =>
    have hlength : 0 < buffer.length := by
      rw [Buffer.length, List.length_pos_iff]
      exact fun hnil => htext (List.isEmpty_iff.2 hnil)
    simp only [Span.stop] at hspan
    generalize hoffset : (if span.length ≠ 0 then span.start else span.start - 1) = offset
    have hlt : offset < buffer.length := by
      split at hoffset <;> omega
    obtain ⟨attributes, range, hfound, hcell⟩ := h.exists_attributesAt hlt
    rw [attributesAt, if_neg htext] at hfound
    simp only [hfound, hcell]
    rfl

theorem carried_eq (h : buffer.Consistent) {span : Span} (hspan : span.stop ≤ buffer.length)
    (fragment : Fragment) :
    buffer.carried span fragment = .ok (carriedCell buffer.runs.cells span fragment) := by
  cases fragment with
  | plain text => exact inherited_eq h hspan
  | styled text attributes => rfl

variable {edited : Buffer} {mutation : Mutation}

theorem Consistent.fits (h : buffer.Consistent) {span : Span} (hspan : span.stop ≤ buffer.length) :
    (span.stop : Int) ≤ buffer.runs.length := by
  rw [h.length]
  exact Int.ofNat_le.2 hspan

theorem transact_eq_of_eq_ok {edit : Buffer → Attempt Buffer Buffer}
    (h : edit buffer.beginEditing = .ok edited) : buffer.transact edit = edited.endEditing := by
  rw [transact, h]

/-- An edit that fits leads to the end of its transaction. -/
theorem exists_mutate (h : buffer.Consistent) (hfits : mutation.Fits buffer.length) :
    ∃ edited, buffer.mutate mutation = edited.endEditing ∧ buffer.Mutated mutation edited := by
  have hopened : buffer.beginEditing.Consistent := ⟨h.canonical, h.length⟩
  cases mutation with
  | replaceCharacters span fragment =>
      have hoperation : (Operation.replace span fragment.length
          (some (carriedCell buffer.runs.cells span fragment))).Fits buffer.runs.length :=
        h.fits hfits
      obtain ⟨runs, hruns, hrepresents⟩ := represents_apply h.canonical hoperation
      let spliced : Buffer := { buffer.beginEditing with
        text := Text.replaceSpan span.start span.length fragment.text buffer.text
        runs := runs }
      obtain ⟨recorded, hrecord, hmask, hdelta⟩ := spliced.exists_recordEdit
        (attributeChange ||| characterChange) span ((fragment.length : Int) - span.length)
        (by omega)
      have hwithin : span.within buffer.length = .ok () :=
        Span.within_eq_pure (Int.ofNat_le.2 hfits)
      have hsplice : buffer.beginEditing.splice span fragment.text
          (carriedCell buffer.runs.cells span fragment) = .ok spliced :=
        congrArg (restyle { buffer.beginEditing with text := spliced.text }) hruns
      have hconsistent := consistent_splice hopened hfits fragment.text
        (carriedCell buffer.runs.cells span fragment)
      rw [hsplice] at hconsistent
      refine ⟨{ spliced with pending := recorded }, ?_, ?_⟩
      · calc
          buffer.replaceCharacters span fragment =
              buffer.transact _ :=
            (leaving_bind_eq_of_eq_ok hwithin _).trans
              (leaving_bind_eq_of_eq_ok (carried_eq h hfits fragment) _)
          _ = _ := transact_eq_of_eq_ok ((bind_eq_of_eq_ok hsplice _).trans hrecord)
      · exact ⟨⟨hconsistent.canonical, hconsistent.length⟩, rfl, hrepresents,
          cells_subset_of_apply h.canonical hruns, hmask, hdelta, rfl⟩
  | setAttributes span attributes =>
      have hoperation : (Operation.setAttributes span (some attributes)).Fits
          buffer.runs.length := h.fits hfits
      obtain ⟨runs, hruns, hrepresents⟩ := represents_apply h.canonical hoperation
      let restyled : Buffer := { buffer.beginEditing with runs := runs }
      have hrestyled : buffer.beginEditing.restyle (buffer.runs.setAttributes span attributes) =
          .ok restyled := congrArg buffer.beginEditing.restyle hruns
      have hconsistent := hopened.restyle (.setAttributes span (some attributes)) rfl
      change (buffer.beginEditing.restyle
        (buffer.runs.setAttributes span attributes)).state.Consistent
        at hconsistent
      rw [hrestyled] at hconsistent
      obtain ⟨recorded, hrecord, hmask, hdelta⟩ :=
        restyled.exists_recordEdit attributeChange span 0 (by omega)
      have hwithin : span.within buffer.length = .ok () :=
        Span.within_eq_pure (Int.ofNat_le.2 hfits)
      refine ⟨{ restyled with pending := recorded }, ?_, ?_⟩
      · exact (leaving_bind_eq_of_eq_ok hwithin _).trans
          (transact_eq_of_eq_ok ((bind_eq_of_eq_ok hrestyled _).trans hrecord))
      · exact ⟨⟨hconsistent.canonical, hconsistent.length⟩, rfl, hrepresents,
          cells_subset_of_apply h.canonical hruns, hmask, hdelta, rfl⟩
  | recolorize =>
      obtain ⟨recorded, hrecord, hmask, hdelta⟩ :=
        buffer.beginEditing.exists_recordEdit attributeChange buffer.whole 0 (by omega)
      refine ⟨{ buffer.beginEditing with pending := recorded }, ?_, ?_⟩
      · rw [mutate, recolorize]
        exact transact_eq_of_eq_ok hrecord
      · exact ⟨⟨h.canonical, h.length⟩, rfl, h.represents, List.Subset.refl _, hmask,
          hdelta, rfl⟩

theorem within_eq_error {span : Span} (hspan : ¬ span.stop ≤ buffer.length) :
    span.within buffer.length = .error (.rangeOutOfBounds span.start span.stop buffer.length) :=
  Span.within_eq_error fun hle => hspan (Int.ofNat_le.1 hle)

theorem replaceCharacters_eq_error {span : Span} (hspan : ¬ span.stop ≤ buffer.length)
    (fragment : Fragment) : buffer.replaceCharacters span fragment =
      .error ⟨.rangeOutOfBounds span.start span.stop buffer.length, buffer.untouched⟩ := by
  rw [replaceCharacters, within_eq_error hspan]
  rfl

theorem setAttributes_eq_error {span : Span} (hspan : ¬ span.stop ≤ buffer.length)
    (attributes : AttributeSet) : buffer.setAttributes span attributes =
      .error ⟨.rangeOutOfBounds span.start span.stop buffer.length, buffer.untouched⟩ := by
  rw [setAttributes, within_eq_error hspan]
  rfl

/-- An edit that does not fit is refused for its range, and nothing begins. -/
theorem mutate_eq_error (hfits : ¬ mutation.Fits buffer.length) :
    ∃ first stop, buffer.mutate mutation =
      .error ⟨.rangeOutOfBounds first stop buffer.length, buffer.untouched⟩ := by
  cases mutation with
  | replaceCharacters span fragment => exact ⟨_, _, replaceCharacters_eq_error hfits fragment⟩
  | setAttributes span attributes => exact ⟨_, _, setAttributes_eq_error hfits attributes⟩
  | recolorize => exact absurd trivial hfits

/-! ### The end of a transaction -/

/-- Inside of another transaction, or with nothing recorded, nothing happens. -/
theorem endEditing_quiet {depth : Nat} (hdepth : buffer.depth = depth + 1)
    (hquiet : depth ≠ 0 ∨ buffer.pending.mask = 0) :
    buffer.endEditing = .ok ({ buffer with depth := depth }, none) := by
  rw [endEditing, hdepth]
  exact if_pos hquiet

/-- The end of the outermost transaction passes over a buffer with nothing pending any more. -/
theorem endEditing_due (hdepth : buffer.depth = 1) (hmask : buffer.pending.mask ≠ 0)
    {colored : Buffer} {spans : Nat}
    (hpass : colorize { buffer with depth := 0, pending := .none } = .ok (colored, spans)) :
    buffer.endEditing = .ok (colored, some ⟨buffer.pending.event, colored.observers, spans⟩) := by
  rw [endEditing, hdepth]
  refine (if_neg (not_or.2 ⟨not_not_intro rfl, hmask⟩)).trans ?_
  rw [hpass]
  rfl

/-- What a pass over a buffer leaves as its runs. -/
structure Passed (buffer : Buffer) (runs : RunList) : Prop where
  represents : runs.Represents buffer.passCells
  stored : ∀ cell ∈ runs.cells, ∃ before ∈ buffer.runs.cells, ∃ offset,
    cell = (before.insert fontName buffer.font).assign colorName (buffer.colorAt? offset)

theorem exists_passed (h : buffer.Consistent) :
    ∃ runs, buffer.colorize =
        .ok ({ buffer with runs := runs }, (buffer.roles.classify buffer.text).length) ∧
      buffer.Passed runs := by
  obtain ⟨colored, hpass, hrepresents⟩ := exists_colorize h
  obtain ⟨runs, rfl⟩ := eq_of_colorize_eq_ok hpass
  exact ⟨runs, hpass, hrepresents, fun cell hcell => exists_of_mem_cells_colorize h hpass hcell⟩

/-- The end of the outermost transaction runs a pass over the text it finds, with
nothing pending any more. -/
theorem exists_endEditing_outermost (h : buffer.Consistent) (hdepth : buffer.depth = 1)
    (hmask : buffer.pending.mask ≠ 0) :
    ∃ runs, buffer.endEditing =
        .ok ({ buffer with depth := 0, pending := .none, runs := runs },
          some ⟨buffer.pending.event, buffer.observers,
            (buffer.roles.classify buffer.text).length⟩) ∧
      buffer.Passed runs := by
  have hcleared : Consistent { buffer with depth := 0, pending := .none } :=
    ⟨h.canonical, h.length⟩
  obtain ⟨runs, hpass, hpassed⟩ := exists_passed hcleared
  exact ⟨runs, endEditing_due hdepth hmask hpass, hpassed.represents, hpassed.stored⟩

/-- A transaction that is open can always be ended. -/
theorem exists_endEditing (h : buffer.Consistent) (hdepth : buffer.depth ≠ 0) :
    ∃ after notice, buffer.endEditing = .ok (after, notice) := by
  obtain ⟨depth, hdepth⟩ := Nat.exists_eq_succ_of_ne_zero hdepth
  by_cases hquiet : depth ≠ 0 ∨ buffer.pending.mask = 0
  · exact ⟨_, _, endEditing_quiet hdepth hquiet⟩
  · rw [not_or, not_not] at hquiet
    obtain ⟨rfl, hmask⟩ := hquiet
    obtain ⟨runs, hend, -⟩ := exists_endEditing_outermost h hdepth hmask
    exact ⟨_, _, hend⟩

/-- An edit is refused for nothing but its range, and the end of a transaction only
where none is open.  Nothing has been done to the buffer then. -/
theorem failure_of_edit (h : buffer.Consistent) {edit : Attempt Edited Edited}
    (hedit : buffer.Edit edit) {stopped : Stopped Edited} (hfailed : edit = .error stopped) :
    stopped.left = buffer.untouched ∧
      ((∃ first stop, stopped.failure = .rangeOutOfBounds first stop buffer.length) ∨
        (stopped.failure = .unmatchedEnd ∧ buffer.depth = 0)) := by
  have hmutation (mutation : Mutation) (hrefused : buffer.mutate mutation = .error stopped) :
      stopped.left = buffer.untouched ∧
        ∃ first stop, stopped.failure = .rangeOutOfBounds first stop buffer.length := by
    by_cases hfits : mutation.Fits buffer.length
    · obtain ⟨edited, hmutate, hedited⟩ := exists_mutate h hfits
      have hdepth : edited.depth ≠ 0 := by
        rw [hedited.frame]
        exact Nat.succ_ne_zero _
      obtain ⟨after, notice, hend⟩ := exists_endEditing hedited.consistent hdepth
      cases hrefused.symm.trans (hmutate.trans hend)
    · obtain ⟨first, stop, hrange⟩ := mutate_eq_error hfits
      cases hrefused.symm.trans hrange
      exact ⟨rfl, first, stop, rfl⟩
  cases hedit with
  | replaceCharacters span fragment =>
      exact (hmutation (.replaceCharacters span fragment) hfailed).imp_right .inl
  | setAttributes span attributes =>
      exact (hmutation (.setAttributes span attributes) hfailed).imp_right .inl
  | recolorize => exact (hmutation .recolorize hfailed).imp_right .inl
  | endEditing =>
      by_cases hdepth : buffer.depth = 0
      · rw [endEditing, hdepth] at hfailed
        cases hfailed
        exact ⟨rfl, .inr ⟨rfl, hdepth⟩⟩
      · obtain ⟨after, notice, hend⟩ := exists_endEditing h hdepth
        cases hfailed.symm.trans hend

/-- An edit succeeds or has done nothing. -/
theorem Edit.ok_or_untouched (h : buffer.Consistent) {edit : Attempt Edited Edited}
    (hedit : buffer.Edit edit) :
    (∃ after notice, edit = .ok (after, notice)) ∨
      ∃ failure, edit = .error ⟨failure, buffer.untouched⟩ := by
  cases hresult : edit with
  | ok edited => exact .inl ⟨edited.1, edited.2, rfl⟩
  | error stopped =>
      have hleft := (failure_of_edit h hedit hresult).1
      exact .inr ⟨stopped.failure, by rw [← hleft]⟩

/-- Outside of transactions an edit that fits succeeds, runs a pass and gives
notice. -/
theorem exists_mutate_outermost (h : buffer.Consistent) (hfits : mutation.Fits buffer.length)
    (hdepth : buffer.depth = 0) :
    ∃ edited runs, buffer.mutate mutation =
        .ok ({ edited with depth := 0, pending := .none, runs := runs },
          some ⟨edited.pending.event, edited.observers,
            (edited.roles.classify edited.text).length⟩) ∧
      buffer.Mutated mutation edited ∧ edited.Passed runs := by
  obtain ⟨edited, hmutate, hedited⟩ := exists_mutate h hfits
  have hdepth' : edited.depth = 1 := by rw [hedited.frame, hdepth]
  obtain ⟨runs, hend, hpassed⟩ :=
    exists_endEditing_outermost hedited.consistent hdepth' hedited.mask_ne_zero
  exact ⟨edited, runs, hmutate.trans hend, hedited, hpassed⟩

end Buffer

end MarkupEditor
