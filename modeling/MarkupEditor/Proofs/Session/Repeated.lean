import MarkupEditor.Proofs.Runs.Unchanged
import MarkupEditor.Proofs.Session.TokenColors

/-!
# Passes that find everything done

A pass may join runs that have become alike and split others by their colors.  A second
pass over the same styled text finds nothing left to join, to split or to store: it leaves
the run list as it is, down to the values stored.  So does a transaction that edits
nothing but runs a pass at its end.
-/

namespace MarkupEditor

open RunList

namespace Buffer

variable {buffer after : Buffer}

/-- Buffers that hold the same styled text and would be styled the same by a pass. -/
structure SameStyling (buffer after : Buffer) : Prop extends SameColors buffer after where
  font : after.font = buffer.font

/-- A buffer in which every character has the font and the color that a pass gives it. -/
structure Painted (buffer : Buffer) : Prop where
  fonts : ∀ cell ∈ buffer.runs.cells, cell.get? fontName = some buffer.font
  highlighted : buffer.Highlighted

theorem Painted.of_sameStyling (h : buffer.Painted) (hsame : buffer.SameStyling after) :
    after.Painted where
  fonts := by
    rw [hsame.runs, hsame.font]
    exact h.fonts
  highlighted := h.highlighted.of_sameColors hsame.toSameColors

theorem painted_of_colorize (h : buffer.Consistent) {spans : Nat}
    (hpass : buffer.colorize = .ok (after, spans)) : after.Painted where
  fonts := by
    intro cell hcell
    have hnames : fontName ≠ colorName := by decide
    obtain ⟨before, -, offset, rfl⟩ := exists_of_mem_cells_colorize h hpass hcell
    obtain ⟨runs, rfl⟩ := eq_of_colorize_eq_ok hpass
    rw [AttributeSet.get?_assign, if_neg hnames, AttributeSet.get?_insert, if_pos rfl]
  highlighted := highlighted_of_colorize h hpass

/-- A pass counts the spans of markup in the text, which it does not change. -/
theorem spans_of_colorize {spans : Nat} (hpass : buffer.colorize = .ok (after, spans)) :
    spans = (after.roles.classify after.text).length := by
  obtain ⟨runs, rfl⟩ := eq_of_colorize_eq_ok hpass
  obtain ⟨withFont, -, hrest⟩ := exists_of_bind_eq_ok hpass
  obtain ⟨colored, -, hresult⟩ := exists_of_bind_eq_ok hrest
  cases hresult
  rfl

/-! ### A pass over a painted buffer -/

theorem Painted.addAttribute_eq (h : buffer.Consistent) (hpainted : buffer.Painted) :
    buffer.runs.addAttribute fontName buffer.font buffer.whole = .ok buffer.runs := by
  have hwhole : buffer.whole = .whole buffer.runs.cells.length := by
    rw [h.length_cells, whole]
  have hsame : buffer.runs.cells.map (·.insert fontName buffer.font) = buffer.runs.cells :=
    calc
      _ = buffer.runs.cells.map id :=
        List.map_congr_left fun cell hcell =>
          AttributeSet.insert_eq_self (hpainted.fonts cell hcell)
      _ = buffer.runs.cells := List.map_id _
  have hspan : (buffer.whole.stop : Int) ≤ buffer.runs.length :=
    h.fits (Nat.le_of_eq (Nat.zero_add buffer.length))
  apply modifyWithin_eq_self h.canonical hspan (actsAs_map (·.insert fontName buffer.font) _)
  rw [hwhole, onSpan_whole, hsame]

theorem Painted.assignAttribute_eq (h : buffer.Consistent) (hpainted : buffer.Painted) :
    buffer.runs.assignAttribute colorName
      (buffer.colors (buffer.roles.classify buffer.text)) = .ok buffer.runs := by
  have hvalues := length_colors buffer
  apply assignAttribute_eq_self h.canonical
  · rw [hvalues, h.length]
  · apply List.ext_getElem
    · rw [List.length_zipWith, hvalues, h.length_cells, Nat.min_self]
    · intro offset hoffset hcell
      have hlt : offset < buffer.length := h.length_cells ▸ hcell
      have hcolor := getElem?_colors buffer hlt
      rw [List.getElem?_eq_getElem (hvalues ▸ hlt)] at hcolor
      rw [List.getElem_zipWith, Option.some.inj hcolor]
      exact AttributeSet.assign_eq_self
        (hpainted.highlighted offset _ (List.getElem?_eq_getElem hcell))

theorem Painted.colorize_eq (h : buffer.Consistent) (hpainted : buffer.Painted) :
    buffer.colorize = .ok (buffer, (buffer.roles.classify buffer.text).length) := by
  have hfont : buffer.addAttribute fontName buffer.font buffer.whole = .ok buffer :=
    congrArg buffer.restyle (hpainted.addAttribute_eq h)
  have hcolor : buffer.assignAttribute colorName
      (buffer.colors (buffer.roles.classify buffer.text)) = .ok buffer :=
    congrArg buffer.restyle (hpainted.assignAttribute_eq h)
  exact (bind_eq_of_eq_ok hfont _).trans (bind_eq_of_eq_ok hcolor _)

/-- A transaction that edits nothing ends with a pass, outside of other ones. -/
theorem Painted.recolorize_eq (h : buffer.Consistent) (hpainted : buffer.Painted)
    (hdepth : buffer.depth = 0) :
    ∃ notice, buffer.recolorize = .ok ({ buffer with pending := .none }, some notice) ∧
      notice.spans = (buffer.roles.classify buffer.text).length := by
  obtain ⟨recorded, hrecord, hmask, -⟩ :=
    buffer.beginEditing.exists_recordEdit attributeChange buffer.whole 0 (by omega)
  let edited : Buffer := { buffer.beginEditing with pending := recorded }
  have hopened : edited.depth = 1 := congrArg Nat.succ hdepth
  have hdue : edited.pending.mask ≠ 0 := by
    change recorded.mask ≠ 0
    rw [hmask]
    intro hzero
    exact Nat.one_ne_zero (Nat.or_eq_zero_iff.1 hzero).2
  have hcleared : { edited with depth := 0, pending := .none } =
      ({ buffer with pending := .none } : Buffer) := by
    rw [← hdepth]
    rfl
  have hpass : colorize { edited with depth := 0, pending := .none } =
      .ok ({ buffer with pending := .none }, (buffer.roles.classify buffer.text).length) := by
    rw [hcleared]
    exact colorize_eq ⟨h.canonical, h.length⟩ ⟨hpainted.fonts, hpainted.highlighted⟩
  have hbegun : buffer.recolorize = edited.endEditing := by
    rw [recolorize]
    exact transact_eq_of_eq_ok hrecord
  exact ⟨_, hbegun.trans (endEditing_due hopened hdue hpass), rfl⟩

/-- A completed transaction leaves a painted buffer, and has counted its spans of markup. -/
theorem Consistent.painted_of_edit (h : buffer.Consistent) {edit : Attempt Edited Edited}
    (hedit : buffer.Edit edit) {notice : Notice} (hresult : edit = .ok (after, some notice)) :
    after.Painted ∧ notice.spans = (after.roles.classify after.text).length := by
  obtain ⟨edited, hedited, hend⟩ := h.exists_endEditing_of_edit hedit hresult
  obtain ⟨depth, -, ⟨-, -, hnone⟩ | ⟨-, -, spans, hpass, hnotice⟩⟩ := endEditing_cases hend
  · cases hnone
  · have hcleared : Consistent { edited with depth := 0, pending := .none } :=
      ⟨hedited.canonical, hedited.length⟩
    cases hnotice
    exact ⟨painted_of_colorize hcleared hpass, spans_of_colorize hpass⟩

end Buffer

namespace Session

variable {session : Session}

/-- In every state that a call can find, a pass that follows on a pass counts the same
spans of markup and leaves the buffer as it is, with the very runs and the very values
stored in them.  So it is with a transaction that runs a pass and edits nothing, if it
follows on a completed one and the styled text and the settings are still the same. -/
theorem colorize_colorized (font : Value) (roles : Roles)
    (hreached : Reached (new (Buffer.new font roles)) session) :
    (∃ colored spans, session.buffer.colorize = .ok (colored, spans) ∧
      colored.colorize = .ok (colored, spans)) ∧
    ∀ edit after notice, session.buffer.Edit edit → edit = .ok (after, some notice) →
      ∀ later, after.SameStyling later → later.depth = 0 →
        ∃ again, later.recolorize = .ok ({ later with pending := .none }, some again) ∧
          again.spans = notice.spans := by
  have h : session.buffer.Consistent :=
    keptByBuffers_consistent.reached hreached (Buffer.consistent_new font roles)
  constructor
  · obtain ⟨colored, hpass, -⟩ := Buffer.exists_colorize h
    have hspans := Buffer.spans_of_colorize hpass
    refine ⟨colored, _, hpass, ?_⟩
    rw [hspans]
    exact (Buffer.painted_of_colorize h hpass).colorize_eq (Buffer.consistent_colorize h hpass)
  · intro edit after notice hedit hresult later hsame hdepth
    have hafter : after.Consistent := by
      have hedited := Buffer.consistent_edit h hedit
      rwa [hresult] at hedited
    have hlater : later.Consistent := hafter.of_sameColors hsame.toSameColors
    obtain ⟨hpainted, hspans⟩ := h.painted_of_edit hedit hresult
    obtain ⟨again, hrecolorize, hcount⟩ :=
      (hpainted.of_sameStyling hsame).recolorize_eq hlater hdepth
    refine ⟨again, hrecolorize, ?_⟩
    rw [hcount, hspans, hsame.roles, hsame.text]

/-- A quoted value in a tag, with two passes and with two transactions that run one. -/
theorem colorize_colorized_quotedTag :
    (∃ colored spans, quotedTag.buffer.colorize = .ok (colored, spans) ∧
      colored.colorize = .ok (colored, spans)) ∧
    ∃ after notice again, quotedTag.buffer.recolorize = .ok (after, some notice) ∧
      after.recolorize = .ok ({ after with pending := .none }, some again) ∧
      again.spans = notice.spans := by
  have hreached : Reached (new (Buffer.new hiddenFont .standard)) quotedTag :=
    reached_runAll .start _
  have h : quotedTag.buffer.Consistent :=
    keptByBuffers_consistent.reached hreached (Buffer.consistent_new hiddenFont .standard)
  have hdepth : quotedTag.buffer.depth = 0 := by decide +kernel
  have hfits : Mutation.recolorize.Fits quotedTag.buffer.length := trivial
  obtain ⟨hpass, hagain⟩ := colorize_colorized hiddenFont .standard hreached
  obtain ⟨edited, runs, hrecolorize, -, -⟩ :=
    Buffer.exists_mutate_outermost h hfits hdepth
  obtain ⟨again, hrepeated, hcount⟩ :=
    hagain _ _ _ .recolorize hrecolorize _ ⟨⟨rfl, rfl, rfl, rfl⟩, rfl⟩ rfl
  exact ⟨hpass, _, _, again, hrecolorize, hrepeated, hcount⟩

end Session

end MarkupEditor
