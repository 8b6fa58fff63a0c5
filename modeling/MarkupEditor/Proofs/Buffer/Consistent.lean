import MarkupEditor.Proofs.Markup.Bounds
import MarkupEditor.Proofs.Runs.Refinement
import MarkupEditor.Proofs.Session.Invariant

/-!
# Text and styling stay together

The runs of a buffer are canonical and style as many characters as its text has.
Every edit and every change keeps this, and so does every run of a session with
observers that react.
-/

namespace MarkupEditor

namespace Buffer

/-- Canonical runs that style exactly the text. -/
structure Consistent (buffer : Buffer) : Prop where
  canonical : buffer.runs.Canonical
  length : buffer.runs.length = buffer.length

theorem consistent_new (font : Value) (roles : Roles) : (new font roles).Consistent where
  canonical := RunList.canonical_empty
  length := rfl

variable {buffer after : Buffer}

/-- An operation that leaves the number of characters as it is can be given up anywhere. -/
theorem Consistent.restyle (h : buffer.Consistent) (operation : RunList.Operation)
    (hgrowth : operation.growth = 0) :
    (buffer.restyle (operation.apply buffer.runs)).state.Consistent := by
  rw [state_restyle]
  refine ⟨RunList.canonical_after h.canonical operation, ?_⟩
  have hlength := RunList.length_after h.canonical operation hgrowth
  exact hlength.trans h.length

theorem consistent_addAttribute (h : buffer.Consistent) (name : String) (value : Value)
    (span : Span) : (buffer.addAttribute name value span).state.Consistent :=
  h.restyle (.addAttribute name value span) rfl

theorem consistent_assignAttribute (h : buffer.Consistent) (name : String)
    (values : List (Option Value)) : (buffer.assignAttribute name values).state.Consistent :=
  h.restyle (.assignAttribute name values) rfl

theorem afterPass_eq (buffer : Buffer) :
    buffer.afterPass =
      (buffer.addAttribute fontName buffer.font buffer.whole >>= fun withFont =>
        withFont.assignAttribute colorName
          (buffer.colors (buffer.roles.classify buffer.text))).state := by
  rw [afterPass, colorize]
  cases buffer.addAttribute fontName buffer.font buffer.whole with
  | error stopped => rfl
  | ok withFont =>
      change Attempt.state (Except.map Prod.fst (withFont.assignAttribute colorName _ >>= _)) =
        (withFont.assignAttribute colorName _).state
      cases withFont.assignAttribute colorName _ <;> rfl

theorem consistent_afterPass (h : buffer.Consistent) : buffer.afterPass.Consistent := by
  rw [afterPass_eq]
  exact Attempt.holds_bind Consistent (consistent_addAttribute h _ _ _)
    fun _ hfont => consistent_assignAttribute hfont _ _

theorem consistent_colorize (h : buffer.Consistent) {spans : Nat}
    (hpass : buffer.colorize = .ok (after, spans)) : after.Consistent := by
  have hafter := consistent_afterPass h
  rwa [afterPass, hpass] at hafter

/-- A pass changes nothing but the runs. -/
theorem eq_of_colorize_eq_ok {spans : Nat} (h : buffer.colorize = .ok (after, spans)) :
    ∃ runs, after = { buffer with runs := runs } := by
  obtain ⟨withFont, hfont, hrest⟩ := exists_of_bind_eq_ok h
  obtain ⟨colored, hcolored, hresult⟩ := exists_of_bind_eq_ok hrest
  obtain ⟨runs, -, rfl⟩ := exists_runs_of_restyle hfont
  obtain ⟨runs', -, rfl⟩ := exists_runs_of_restyle hcolored
  cases hresult
  exact ⟨runs', rfl⟩

/-- How a transaction can end: quietly, or with a pass over a buffer that has
nothing pending any more. -/
theorem endEditing_cases {notice : Option Notice}
    (h : buffer.endEditing = .ok (after, notice)) :
    ∃ depth, buffer.depth = depth + 1 ∧
      (((depth ≠ 0 ∨ buffer.pending.mask = 0) ∧ after = { buffer with depth := depth } ∧
          notice = none) ∨
        (depth = 0 ∧ buffer.pending.mask ≠ 0 ∧ ∃ spans,
          colorize { buffer with depth := 0, pending := .none } = .ok (after, spans) ∧
            notice = some ⟨buffer.pending.event, after.observers, spans⟩)) := by
  rw [endEditing] at h
  split at h
  · cases h
  · next depth hdepth =>
    refine ⟨depth, hdepth, ?_⟩
    split at h
    · next hquiet =>
      cases h
      exact .inl ⟨hquiet, rfl, rfl⟩
    · next hdue =>
      rw [not_or, not_not] at hdue
      obtain ⟨⟨colored, spans⟩, hpass, hresult⟩ := exists_of_bind_eq_ok h
      cases hresult
      obtain rfl := hdue.1
      exact .inr ⟨rfl, hdue.2, spans, eq_ok_of_onPart hpass, rfl⟩

theorem consistent_endEditing (h : buffer.Consistent) : buffer.endEditing.state.1.Consistent := by
  rw [endEditing]
  split
  · exact h
  · next depth _ =>
    split
    · exact ⟨h.canonical, h.length⟩
    · have hcleared : Consistent { buffer with depth := depth, pending := .none } :=
        ⟨h.canonical, h.length⟩
      have hpassed := consistent_afterPass hcleared
      rw [afterPass] at hpassed
      generalize colorize _ = pass at hpassed ⊢
      cases pass <;> exact hpassed

theorem consistent_recordEdit (h : buffer.Consistent) (mask : Nat) (span : Span) (delta : Int) :
    (buffer.recordEdit mask span delta).state.Consistent := by
  rw [state_recordEdit]
  exact ⟨h.canonical, h.length⟩

/-- A splice changes the text before its runs, so it is not given up: its span fits both. -/
theorem consistent_splice (h : buffer.Consistent) {span : Span} (hspan : span.stop ≤ buffer.length)
    (text : List Char) (attributes : AttributeSet) :
    (buffer.splice span text attributes).state.Consistent := by
  have hfits : (RunList.Operation.replace span text.length (some attributes)).Fits
      buffer.runs.length := h.length ▸ Int.ofNat_le.2 hspan
  obtain ⟨runs, happly, hrepresents⟩ := RunList.represents_apply h.canonical hfits
  have hruns : buffer.runs.replace span text.length attributes = .ok runs := happly
  rw [splice, state_restyle, hruns]
  refine ⟨hrepresents.canonical, ?_⟩
  have hbefore : buffer.runs.length = (buffer.text.length : Int) := h.length
  have hafter : runs.length = _ := RunList.length_of_apply h.canonical happly
  rw [hbefore] at hafter
  simp only [Span.stop, length] at hspan
  simp only [Attempt.state, hafter, RunList.Operation.growth, length, Text.replaceSpan_eq,
    List.length_append, List.length_take, List.length_drop]
  omega

/-- A transaction ends where its edit does. -/
theorem state_transact (buffer : Buffer) (edit : Buffer → Attempt Buffer Buffer) :
    (buffer.transact edit).state = (edit buffer.beginEditing).state.endEditing.state := by
  rw [transact]
  split
  · next hedit => rw [hedit]; rfl
  · next stopped hedit =>
    rw [hedit]
    change (stopped.left.endEditing >>= _).state = stopped.left.endEditing.state
    cases stopped.left.endEditing <;> rfl

theorem exists_of_transact_eq_ok {edit : Buffer → Attempt Buffer Buffer} {ended : Edited}
    (h : buffer.transact edit = .ok ended) :
    ∃ edited, edit buffer.beginEditing = .ok edited ∧ edited.endEditing = .ok ended := by
  rw [transact] at h
  split at h
  · next edited hedit => exact ⟨edited, hedit, h⟩
  · next stopped _ =>
    obtain ⟨closed, -, hfailed⟩ := exists_of_bind_eq_ok h
    cases hfailed

theorem consistent_transact {edit : Buffer → Attempt Buffer Buffer}
    (hedit : (edit buffer.beginEditing).state.Consistent) :
    (buffer.transact edit).state.1.Consistent := by
  rw [state_transact]
  exact consistent_endEditing hedit

/-- An edit can be given up anywhere. -/
theorem consistent_edit (h : buffer.Consistent) {edit : Attempt Edited Edited}
    (hedit : buffer.Edit edit) : edit.state.1.Consistent := by
  have hopened : buffer.beginEditing.Consistent := ⟨h.canonical, h.length⟩
  have hbegin {β : Type} {answer : Except Failure β} {next : β → Attempt Edited Edited}
      (hnext : ∀ {value}, answer = .ok value → (next value).state.1.Consistent) :
      (leaving buffer.untouched answer >>= next).state.1.Consistent :=
    Attempt.holds_leaving_bind (fun edited : Edited => edited.1.Consistent) h hnext
  cases hedit with
  | replaceCharacters span fragment =>
      refine hbegin fun hwithin => hbegin fun {attributes} _ => consistent_transact ?_
      have hspan : span.stop ≤ buffer.length :=
        Int.ofNat_le.1 (Span.le_of_within_eq_ok hwithin)
      exact Attempt.holds_bind Consistent (consistent_splice hopened hspan _ _)
        fun _ hspliced => consistent_recordEdit hspliced _ _ _
  | setAttributes span attributes =>
      refine hbegin fun _ => consistent_transact ?_
      exact Attempt.holds_bind Consistent
        (hopened.restyle (.setAttributes span (some attributes)) rfl)
        fun _ hrestyled => consistent_recordEdit hrestyled _ _ _
  | recolorize => exact consistent_transact (consistent_recordEdit hopened _ _ _)
  | endEditing => exact consistent_endEditing h

theorem consistent_change (h : buffer.Consistent) (hchange : buffer.Change after) :
    after.Consistent := by
  cases hchange with
  | addAttribute name value span => exact consistent_addAttribute h name value span
  | removeAttribute name span => exact h.restyle (.removeAttribute name span) rfl
  | assignAttribute name values => exact consistent_assignAttribute h name values
  | beginEditing => exact ⟨h.canonical, h.length⟩
  | setColor layer value =>
      rw [state_setColor]
      exact ⟨h.canonical, h.length⟩
  | setFont font => exact ⟨h.canonical, h.length⟩
  | removeObserver observer => exact ⟨h.canonical, h.length⟩

end Buffer

theorem Session.keptByBuffers_consistent : KeptByBuffers Buffer.Consistent where
  edit hedit h := Buffer.consistent_edit h hedit
  change hchange h := Buffer.consistent_change h hchange
  record h := Buffer.consistent_recordEdit h _ _ _
  pass h := Buffer.consistent_afterPass h
  observer h := ⟨h.canonical, h.length⟩

end MarkupEditor
