import MarkupEditor.Editor.Keys
import MarkupEditor.Proofs.Session.Silent

/-!
# Edits by the editor

The editor edits through its buffer.  An edit that fits leaves the cursor and all that
is shown as they are, and outside of other transactions it is news of changed characters
for the view.
-/

namespace MarkupEditor

namespace Editor

/-- An editor whose buffer has its text and its styling together, and whose observers
only take note. -/
structure Sound (editor : Editor) : Prop where
  consistent : editor.session.buffer.Consistent
  silent : editor.session.Silent

theorem Sound.of_session {editor after : Editor} (h : editor.Sound)
    (hsession : after.session = editor.session) : after.Sound := by
  constructor
  all_goals rw [hsession]
  · exact h.consistent
  · exact h.silent

/-- What an edit that leaves a text makes of an editor. -/
structure Edited (editor : Editor) (text : List Char) (after : Editor) : Prop where
  sound : after.Sound
  text : after.text = text
  depth : after.session.buffer.depth = editor.session.buffer.depth
  observers : after.session.buffer.observers = editor.session.buffer.observers
  modified : editor.session.buffer.depth = 0 → .view ∈ editor.session.buffer.observers →
    after.modified = true
  frame : after = { editor with
    session := after.session, modified := after.modified, records := after.records }

/-- A new editor watches its buffer and has nothing to save. -/
theorem fields_of_start {session : Session} {filename : Option String} {screen : Screen}
    {disk : Disk} {clock : Instant} {editor : Editor}
    (h : start session filename screen disk clock = .ok editor) :
    editor.session = { session with buffer := session.buffer.addObserver .view } ∧
      editor.cursor = 0 ∧ editor.modified = false ∧ editor.quitRequested = false := by
  rw [start] at h
  split at h
  · cases h
  · cases h
    exact ⟨rfl, rfl, rfl, rfl⟩

theorem sound_start {session : Session} {filename : Option String} {screen : Screen}
    {disk : Disk} {clock : Instant} {editor : Editor}
    (h : start session filename screen disk clock = .ok editor)
    (hconsistent : session.buffer.Consistent) (hsilent : session.Silent) : editor.Sound := by
  obtain ⟨hsession, -⟩ := fields_of_start h
  constructor
  case consistent =>
    rw [hsession]
    exact ⟨hconsistent.canonical, hconsistent.length⟩
  case silent =>
    rw [hsession]
    exact hsilent

theorem and_characterChange_ne_zero (mask : Nat) :
    (mask ||| (attributeChange ||| characterChange)) &&& characterChange ≠ 0 := by
  rw [Nat.and_or_distrib_right]
  intro hzero
  have hright : (attributeChange ||| characterChange) &&& characterChange = 0 :=
    (Nat.or_eq_zero_iff.1 hzero).2
  cases hright

variable {editor : Editor}

open Session in
theorem Sound.exists_perform (h : editor.Sound) {command : Command} {span : Span}
    {fragment : Fragment}
    (hmutation : command.mutation? editor.session.buffer.length =
      some (.ok (.replaceCharacters span fragment)))
    (hfits : span.stop ≤ editor.text.length) :
    ∃ after, editor.perform command = (after, none) ∧
      editor.Edited (Text.replaceSpan span.start span.length fragment.text editor.text) after := by
  obtain ⟨edited, reached, hedited, hexecute, hcloses, hconsistent, hsilent⟩ :=
    h.silent.exists_execute_edit
      (idle_reactWithin (editor.session.reactionsLeft + command.reactions)) h.consistent
      hmutation hfits
  have hrun : editor.session.run command = ⟨reached, [], .ok .done⟩ := hexecute
  have hopened : edited.depth = editor.session.buffer.depth + 1 := by rw [hedited.frame]
  have hobservers : edited.observers = editor.session.buffer.observers := by rw [hedited.frame]
  obtain ⟨htext, hkept, hdepth⟩ := hcloses.frame
  refine ⟨editor.takeNews reached, ?_, ?_⟩
  · rw [perform, Editor.command, hrun]
    rfl
  · constructor
    case sound => exact ⟨hconsistent, hsilent⟩
    case text => exact htext.trans hedited.text
    case depth => exact hdepth.trans (congrArg Nat.pred hopened)
    case observers => exact hkept.trans hobservers
    case modified =>
      intro hclosed hview
      have houtermost : edited.depth = 1 := by rw [hopened, hclosed]
      have hnews := hcloses.mem_journal houtermost hedited.mask_ne_zero (hobservers.symm ▸ hview)
      have hchange : isCharacterChange (.notified .view edited.pending.event) = true := by
        rw [isCharacterChange, Pending.event, hedited.mask]
        exact decide_eq_true (and_characterChange_ne_zero _)
      have hany : reached.journal.any isCharacterChange = true :=
        List.any_eq_true.2 ⟨_, hnews, hchange⟩
      rw [takeNews, hany, Bool.or_true]
    case frame => rfl

/-- Characters of the text are replaced. -/
theorem Sound.exists_replace (h : editor.Sound) {offset length : Nat}
    (hfits : offset + length ≤ editor.text.length) (text : List Char) :
    ∃ after, editor.perform (.replace [offset, length] (.plain text)) = (after, none) ∧
      editor.Edited (Text.replaceSpan offset length text editor.text) after := by
  have hmutation : (Command.replace [offset, length] (.plain text)).mutation?
      editor.session.buffer.length =
        some (.ok (.replaceCharacters ⟨offset, length⟩ (.plain text))) :=
    congrArg some (bind_eq_of_eq_ok (Span.ofInts_natCast offset length) _)
  exact h.exists_perform hmutation hfits

/-- The whole text is replaced. -/
theorem Sound.exists_setText (h : editor.Sound) (text : List Char) :
    ∃ after, editor.perform (.setText (.plain text)) = (after, none) ∧
      editor.Edited text after := by
  have hmutation : (Command.setText (.plain text)).mutation? editor.session.buffer.length =
      some (.ok (.replaceCharacters (.whole editor.session.buffer.length) (.plain text))) := rfl
  have hfits : (Span.whole editor.session.buffer.length).stop ≤ editor.text.length :=
    Nat.le_of_eq (Nat.zero_add _)
  have hwhole : Text.replaceSpan 0 editor.text.length text editor.text = text := by
    rw [Text.replaceSpan_eq]
    simp
  obtain ⟨after, hperform, hedited⟩ := h.exists_perform hmutation hfits
  exact ⟨after, hperform, hwhole ▸ hedited⟩

/-- A file that can be read is loaded. -/
theorem Sound.exists_load (h : editor.Sound) {filename : String} {bytes : List UInt8}
    (hread : editor.disk.read filename = .ok bytes) :
    ∃ changed, editor.Edited (TextFile.read bytes) changed ∧
      ∃ loaded, editor.load filename = (loaded, none) ∧
        loaded = { changed with
          filename := some filename, cursor := 0, topLine := 0, modified := false
          records := loaded.records } := by
  obtain ⟨changed, hperform, hedited⟩ := h.exists_setText (TextFile.read bytes)
  refine ⟨changed, hedited, ?_⟩
  rw [load, hread]
  simp only [hperform]
  exact ⟨_, rfl, rfl⟩

end Editor

end MarkupEditor
