import MarkupEditor.Proofs.Buffer.PassAttributes
import MarkupEditor.Proofs.Markup.Tokens
import MarkupEditor.Proofs.Session.Silent

/-!
# Exported and stored colors

The tokens that are exported and the colors that a pass stores go back to the same spans
of markup, but on different ways: tokens are cut from one list of layers, colors are laid
over runs that join wherever two layers have the same color.  Right after a pass the two
agree on every character.
-/

namespace MarkupEditor

namespace Buffer

variable {buffer after : Buffer}

/-- The colors stored are those of the layers on top. -/
def Highlighted (buffer : Buffer) : Prop :=
  ∀ offset attributes, buffer.runs.cells[offset]? = some attributes →
    attributes.get? colorName = buffer.colorAt? offset

/-- Buffers that hold the same styled text and would be colored the same. -/
structure SameColors (buffer after : Buffer) : Prop where
  text : after.text = buffer.text
  runs : after.runs = buffer.runs
  palette : after.palette = buffer.palette
  roles : after.roles = buffer.roles

theorem Consistent.of_sameColors (h : buffer.Consistent) (hsame : buffer.SameColors after) :
    after.Consistent where
  canonical := hsame.runs ▸ h.canonical
  length := by
    rw [hsame.runs, Buffer.length, hsame.text]
    exact h.length

theorem Highlighted.of_sameColors (h : buffer.Highlighted) (hsame : buffer.SameColors after) :
    after.Highlighted := by
  intro offset attributes hcell
  have hvalue : after.colorValue = buffer.colorValue := by
    funext layer
    rw [colorValue, colorValue, hsame.palette]
  rw [hsame.runs] at hcell
  rw [h offset attributes hcell, colorAt?, colorAt?, hsame.roles, hsame.text, hvalue]

theorem highlighted_of_colorize (h : buffer.Consistent) {spans : Nat}
    (hpass : buffer.colorize = .ok (after, spans)) : after.Highlighted := by
  intro offset attributes hcell
  have hafter : after.Consistent := consistent_colorize h hpass
  obtain ⟨runs, hframe⟩ := eq_of_colorize_eq_ok hpass
  have hoffset : offset < buffer.runs.cells.length := by
    have hlength : after.length = buffer.length := by rw [hframe, Buffer.length, Buffer.length]
    rw [h.length_cells, ← hlength, ← hafter.length_cells]
    exact (List.getElem?_eq_some_iff.1 hcell).1
  obtain ⟨-, hcolor, -⟩ :=
    attributes_after_pass h hpass (List.getElem?_eq_getElem hoffset) hcell
  rw [hcolor, hframe]
  rfl

/-- A pass over some text and its styling leads to the buffer. -/
def LeftByPass (after : Buffer) : Prop :=
  ∃ (before : Buffer) (spans : Nat), before.Consistent ∧ before.colorize = .ok (after, spans)

theorem LeftByPass.highlighted (h : after.LeftByPass) : after.Consistent ∧ after.Highlighted := by
  obtain ⟨before, spans, hbefore, hpass⟩ := h
  exact ⟨consistent_colorize hbefore hpass, highlighted_of_colorize hbefore hpass⟩

theorem Consistent.leftByPass_of_endEditing (h : buffer.Consistent) {notice : Notice}
    (hend : buffer.endEditing = .ok (after, some notice)) : after.LeftByPass := by
  obtain ⟨depth, -, ⟨-, -, hnone⟩ | ⟨-, -, spans, hpass, -⟩⟩ := endEditing_cases hend
  · cases hnone
  · exact ⟨{ buffer with depth := 0, pending := .none }, spans, ⟨h.canonical, h.length⟩, hpass⟩

/-- An edit that succeeds ends a transaction. -/
theorem Consistent.exists_endEditing_of_edit (h : buffer.Consistent) {edit : Attempt Edited Edited}
    (hedit : buffer.Edit edit) {notice : Option Notice} (hresult : edit = .ok (after, notice)) :
    ∃ edited : Buffer, edited.Consistent ∧ edited.endEditing = .ok (after, notice) := by
  have hmutated (mutation : Mutation) (hmutate : buffer.mutate mutation = .ok (after, notice)) :
      ∃ edited : Buffer, edited.Consistent ∧ edited.endEditing = .ok (after, notice) := by
    by_cases hfits : mutation.Fits buffer.length
    · obtain ⟨edited, hend, hedited⟩ := exists_mutate h hfits
      exact ⟨edited, hedited.consistent, hend.symm.trans hmutate⟩
    · obtain ⟨first, stop, hrefused⟩ := mutate_eq_error hfits
      cases hrefused.symm.trans hmutate
  cases hedit with
  | replaceCharacters span fragment => exact hmutated (.replaceCharacters span fragment) hresult
  | setAttributes span attributes => exact hmutated (.setAttributes span attributes) hresult
  | recolorize => exact hmutated .recolorize hresult
  | endEditing => exact ⟨buffer, h, hresult⟩

/-- An edit with a notice has ended with a pass. -/
theorem Consistent.leftByPass_of_edit (h : buffer.Consistent) {edit : Attempt Edited Edited}
    (hedit : buffer.Edit edit) {notice : Notice} (hresult : edit = .ok (after, some notice)) :
    after.LeftByPass := by
  obtain ⟨edited, hedited, hend⟩ := h.exists_endEditing_of_edit hedit hresult
  exact hedited.leftByPass_of_endEditing hend

end Buffer

namespace Session

/-- The buffers that a pass has just left in some session: a pass that was asked for, or
the one at the end of the outermost transaction.  Whatever has happened since, the text,
its styling and the colors are the same. -/
inductive JustPassed (start : Session) : Buffer → Prop
  | colorized {session : Session} (h : Reached start session) {buffer : Buffer} {spans : Nat}
      (hpass : session.buffer.colorize = .ok (buffer, spans)) : JustPassed start buffer
  | edited {session : Session} (h : Reached start session)
      {edit : Attempt Edited Edited} (hedit : session.buffer.Edit edit)
      {buffer : Buffer} {notice : Notice} (hresult : edit = .ok (buffer, some notice)) :
      JustPassed start buffer
  | kept {buffer after : Buffer} (h : JustPassed start buffer) (hsame : buffer.SameColors after) :
      JustPassed start after

theorem JustPassed.highlighted {font : Value} {roles : Roles} {buffer : Buffer}
    (h : JustPassed (new (Buffer.new font roles)) buffer) :
    buffer.Consistent ∧ buffer.Highlighted := by
  have hconsistent {session : Session}
      (hreached : Reached (new (Buffer.new font roles)) session) : session.buffer.Consistent :=
    keptByBuffers_consistent.reached hreached (Buffer.consistent_new font roles)
  induction h with
  | colorized hreached hpass =>
      exact Buffer.LeftByPass.highlighted ⟨_, _, hconsistent hreached, hpass⟩
  | edited hreached hedit hresult =>
      exact ((hconsistent hreached).leftByPass_of_edit hedit hresult).highlighted
  | kept _ hsame ih => exact ⟨ih.1.of_sameColors hsame, ih.2.of_sameColors hsame⟩

/-- The tokens of a buffer are pieces of its text in order, none empty, and neighbors are
of different kinds; a character lies in a token of the kind of the layer on top.  Right
after a pass it also has the color of that layer, and none where there is no layer. -/
theorem get?_colorName_of_kinds_tokens (buffer : Buffer) :
    (∀ token ∈ buffer.tokens, token.text ≠ []) ∧
      buffer.tokens.flatMap Token.text = buffer.text ∧
      buffer.tokens.IsChain Token.Apart ∧
      (∀ offset < buffer.length, (Token.kinds buffer.tokens)[offset]? =
        some (Token.kindName (buffer.roles.layerAt? buffer.text offset))) ∧
      ∀ font roles, JustPassed (new (Buffer.new font roles)) buffer →
        ∀ offset < buffer.length, ∃ layer attributes span,
          (Token.kinds buffer.tokens)[offset]? = some (Token.kindName layer) ∧
          buffer.attributesAt offset = .ok (attributes, span) ∧
          attributes.get? colorName = layer.map buffer.colorValue := by
  refine ⟨Token.text_ne_nil_of_mem_ofLayers _ _, buffer.flatMap_text_tokens,
    Token.isChain_ofLayers _ _, fun offset hoffset => buffer.getElem?_kinds_tokens hoffset, ?_⟩
  intro font roles hpassed offset hoffset
  obtain ⟨hconsistent, hhighlighted⟩ := hpassed.highlighted
  obtain ⟨attributes, span, hfound, hcell⟩ := hconsistent.exists_attributesAt hoffset
  exact ⟨_, attributes, span, buffer.getElem?_kinds_tokens hoffset, hfound,
    hhighlighted offset attributes hcell⟩

/-- A quoted value in a tag: its token and its color are those of the value. -/
theorem get?_colorName_of_kinds_quotedTag :
    JustPassed (new (Buffer.new hiddenFont .standard)) quotedTag.buffer ∧
      (Token.kinds quotedTag.buffer.tokens)[4]? = some "Token.Literal.String" ∧
      ∃ attributes span, quotedTag.buffer.attributesAt (4 : Nat) = .ok (attributes, span) ∧
        attributes.get? colorName = some (quotedTag.buffer.colorValue .quoted) := by
  have hconsistent := Buffer.consistent_new hiddenFont .standard
  have hmutation : Command.mutation? 0 (.setText (.plain "<a=\"b\">".toList)) =
      some (.ok (.replaceCharacters ⟨0, 0⟩ (.plain "<a=\"b\">".toList))) := rfl
  obtain ⟨edited, runs, after, hmutate, -, -, hrun, hbuffer, -⟩ :=
    (silent_new (Buffer.new hiddenFont .standard)).exists_execute_outermost
      (idle_reactWithin _) hconsistent hmutation (Nat.le_refl 0) rfl
  have hafter : quotedTag = after := congrArg Outcome.session hrun
  have hpassed : JustPassed (new (Buffer.new hiddenFont .standard)) quotedTag.buffer := by
    rw [hafter, hbuffer]
    exact .edited .start (.replaceCharacters _ _) hmutate
  have hlength : 4 < quotedTag.buffer.length := by decide +kernel
  have hkind : (Token.kinds quotedTag.buffer.tokens)[4]? = some "Token.Literal.String" := by
    decide +kernel
  obtain ⟨-, -, -, -, hcolors⟩ := get?_colorName_of_kinds_tokens quotedTag.buffer
  obtain ⟨layer, attributes, span, hlayer, hfound, hcolor⟩ :=
    hcolors hiddenFont .standard hpassed 4 hlength
  have hquoted : layer = some .quoted :=
    Token.kindName_injective (Option.some.inj (hlayer.symm.trans hkind))
  rw [hquoted] at hcolor
  exact ⟨hpassed, hkind, attributes, span, hfound, hcolor⟩

end Session

end MarkupEditor
