import MarkupEditor.Proofs.Editor.Action
import MarkupEditor.Proofs.Editor.Drawn
import MarkupEditor.Proofs.Editor.Edited
import MarkupEditor.Proofs.Session.Refusals

/-!
# What the editor knows of its text

An editor that watches its buffer outside of transactions is told of every change of the
characters, so the text counts as modified from then on.  Only loading and saving end
this, and only where they succeed.
-/

namespace MarkupEditor

namespace Editor

/-- An editor that watches its buffer, with no transaction open around its edits. -/
structure Attended (editor : Editor) : Prop extends Sound editor where
  depth : editor.session.buffer.depth = 0
  view : .view ∈ editor.session.buffer.observers

/-- What leaves the text alone or makes it count as modified. -/
structure Minds (before after : Editor) : Prop where
  attended : after.Attended
  asked : after.quitRequested = before.quitRequested
  unmodified : after.modified = false → before.modified = false ∧ after.text = before.text

variable {editor : Editor}

theorem attended_start {session : Session} {filename : Option String} {screen : Screen}
    {disk : Disk} {clock : Instant} (h : start session filename screen disk clock = .ok editor)
    (hconsistent : session.buffer.Consistent) (hsilent : session.Silent)
    (hdepth : session.buffer.depth = 0) : editor.Attended := by
  obtain ⟨hsession, -⟩ := fields_of_start h
  refine ⟨sound_start h hconsistent hsilent, ?_, ?_⟩
  · rw [hsession]
    exact hdepth
  · rw [hsession]
    exact List.mem_append_right _ List.mem_cons_self

/-- Of an editor only its session decides on this. -/
theorem Attended.of_session (h : editor.Attended) {after : Editor}
    (hsession : after.session = editor.session) : after.Attended where
  toSound := h.toSound.of_session hsession
  depth := hsession.symm ▸ h.depth
  view := hsession.symm ▸ h.view

theorem Attended.minds (h : editor.Attended) : editor.Minds editor := ⟨h, rfl, fun h => ⟨h, rfl⟩⟩

theorem Minds.moveTo {before after : Editor} (h : before.Minds after) (cursor : Int) :
    before.Minds (after.moveTo cursor) where
  attended := h.attended.of_session rfl
  asked := h.asked
  unmodified := h.unmodified

/-! ### Edits -/

theorem Edited.attended {text : List Char} {after : Editor} (hedited : editor.Edited text after)
    (h : editor.Attended) : after.Attended where
  toSound := hedited.sound
  depth := hedited.depth.trans h.depth
  view := hedited.observers.symm ▸ h.view

/-- A replacement by plain text is refused and leaves the buffer, or it is made. -/
theorem Sound.replace_cases (h : editor.Sound) (coordinates : List Int) (text : List Char) :
    (editor.perform (.replace coordinates (.plain text))).1 = editor.takeNews editor.session ∨
      ∃ start length, editor.Edited (Text.replaceSpan start length text editor.text)
        (editor.perform (.replace coordinates (.plain text))).1 := by
  cases hrefusal : rangeRefusal? editor.session.buffer.length coordinates with
  | some failure =>
      have hcall : (Command.replace coordinates (.plain text)).IsCall := trivial
      have hrun : editor.session.run (.replace coordinates (.plain text)) =
          ⟨editor.session, [], .error failure⟩ :=
        Session.execute_eq_of_refused h.consistent hcall hrefusal
      left
      rw [perform, Editor.command, hrun]
  | none =>
      obtain ⟨span, hspan, hfits⟩ := exists_span_of_rangeRefusal? hrefusal
      have hmutation : (Command.replace coordinates (.plain text)).mutation?
          editor.session.buffer.length = some (.ok (.replaceCharacters span (.plain text))) :=
        congrArg some (bind_eq_of_eq_ok hspan _)
      obtain ⟨after, hperform, hedited⟩ := h.exists_perform hmutation hfits
      right
      rw [hperform]
      exact ⟨span.start, span.length, hedited⟩

theorem Attended.minds_replace (h : editor.Attended) (coordinates : List Int) (text : List Char) :
    editor.Minds (editor.perform (.replace coordinates (.plain text))).1 := by
  obtain hrefused | ⟨start, length, hedited⟩ := h.toSound.replace_cases coordinates text
  · rw [hrefused]
    refine ⟨⟨⟨h.consistent, h.silent⟩, h.depth, h.view⟩, rfl, ?_⟩
    intro hunmodified
    exact ⟨(Bool.or_eq_false_iff.1 hunmodified).1, rfl⟩
  · refine ⟨hedited.attended h, by rw [hedited.frame], ?_⟩
    intro hunmodified
    cases (hedited.modified h.depth h.view).symm.trans hunmodified

/-! ### Actions -/

/-- An action other than to save moves the cursor, after an edit of plain text or without
one; no text is brought but the one to insert. -/
theorem act_cases (editor : Editor) {action : Action} (hsave : action ≠ .save) :
    ∃ stop, (editor.act action).1 = editor.moveTo stop ∨
      ∃ start coordinates text, (text = [] ∨ action = .insert text) ∧
        (editor.act action).1 =
          ((editor.moveTo start).perform (.replace coordinates (.plain text))).1.moveTo stop := by
  cases action with
  | save => exact absurd rfl hsave
  | quit => exact ⟨editor.cursor, .inl rfl⟩
  | insert text =>
      rw [act, insertText]
      split
      · next changed failure hperform =>
        refine ⟨changed.cursor, .inr ⟨editor.cursor, [editor.cursor, 0], text, .inr rfl, ?_⟩⟩
        change changed = (editor.perform _).1.moveTo changed.cursor
        rw [hperform]
        rfl
      · next changed hperform =>
        refine ⟨changed.cursor + text.length,
          .inr ⟨editor.cursor, [editor.cursor, 0], text, .inr rfl, ?_⟩⟩
        change _ = (editor.perform _).1.moveTo _
        rw [hperform]
        rfl
  | delete =>
      rw [act, deleteChar]
      split
      · exact ⟨editor.cursor, .inr ⟨editor.cursor, _, _, .inl rfl, rfl⟩⟩
      · exact ⟨editor.cursor, .inl rfl⟩
  | backspace =>
      rw [act, backspace]
      split
      · exact ⟨editor.cursor, .inl rfl⟩
      · exact ⟨editor.cursor - 1, .inr ⟨editor.cursor - 1, _, _, .inl rfl, rfl⟩⟩
  | left | right | up | down | pageUp | pageDown | lineStart | lineEnd =>
      exact ⟨_, .inl rfl⟩

theorem Attended.minds_act (h : editor.Attended) {action : Action} (hsave : action ≠ .save) :
    editor.Minds (editor.act action).1 := by
  obtain ⟨stop, hact | ⟨start, coordinates, text, -, hact⟩⟩ := act_cases editor hsave
  · rw [hact]
    exact h.minds.moveTo stop
  · have hmoved : (editor.moveTo start).Attended := h.of_session rfl
    have hedited := hmoved.minds_replace coordinates text
    have hminds : editor.Minds
        ((editor.moveTo start).perform (.replace coordinates (.plain text))).1 :=
      ⟨hedited.attended, hedited.asked, hedited.unmodified⟩
    rw [hact]
    exact hminds.moveTo stop

/-! ### Files -/

/-- Only a save that succeeds makes the text count as saved; any other leaves no more than
a message. -/
theorem save_cases (editor : Editor) (filename : Option String) :
    (∃ saved, editor.save filename = (saved, .ok true) ∧
        saved = { editor with
          disk := saved.disk, filename := saved.filename, modified := false
          status := saved.status, statusSince := saved.statusSince, records := saved.records }) ∨
      ∃ tried answer, editor.save filename = (tried, answer) ∧ answer ≠ .ok true ∧
        tried = { editor with
          status := tried.status, statusSince := tried.statusSince, records := tried.records } := by
  rw [save]
  split
  · exact .inr ⟨_, _, rfl, nofun, rfl⟩
  · split
    · split
      · exact .inr ⟨_, _, rfl, nofun, rfl⟩
      · exact .inr ⟨_, _, rfl, nofun, rfl⟩
    · exact .inl ⟨_, rfl, rfl⟩

theorem Attended.load_cases (h : editor.Attended) (filename : String) :
    (∃ loaded, editor.load filename = (loaded, none) ∧ loaded.Attended ∧
        loaded.modified = false ∧ loaded.quitRequested = editor.quitRequested) ∨
      ∃ failure, editor.load filename = (editor, some failure) := by
  cases hread : editor.disk.read filename with
  | error failure => exact .inr ⟨failure, by rw [load, hread]⟩
  | ok bytes =>
      obtain ⟨changed, hedited, loaded, hload, hframe⟩ := h.exists_load hread
      refine .inl ⟨loaded, hload, ?_, ?_, ?_⟩
      · exact (hedited.attended h).of_session (by rw [hframe])
      · rw [hframe]
      · rw [hframe, hedited.frame]

/-! ### Drawing -/

/-- Two editors of one text that differ in what is shown of it at most. -/
structure SameText (before after : Editor) : Prop where
  session : after.session = before.session
  modified : after.modified = before.modified
  asked : after.quitRequested = before.quitRequested

theorem sameText_refresh (editor : Editor) : editor.SameText editor.refresh.1 := by
  rw [refresh_frame]
  exact ⟨rfl, rfl, rfl⟩

/-! ### Keys -/

/-- Nothing but a request to quit ends the editor. -/
theorem answer_ne_false (editor : Editor) {key : Int} (hquit : key ≠ Key.quit) :
    (editor.handleKey key).2 ≠ .ok false := by
  rw [handleKey]
  split
  · next haction => exact absurd (Action.key_eq_of_quit haction) hquit
  · split <;> nofun
  · nofun

theorem handleKey_quit (editor : Editor) :
    editor.handleKey Key.quit = (editor.askToQuit.1, .ok editor.askToQuit.2) := rfl

theorem askToQuit_cases (editor : Editor) :
    (editor.modified = true ∧ editor.quitRequested = false ∧
        editor.askToQuit = (setStatus { editor with quitRequested := true } unsavedWarning, true)) ∨
      ((editor.modified = true → editor.quitRequested = true) ∧
        editor.askToQuit = (editor, false)) := by
  rw [askToQuit]
  cases editor.modified with
  | false => exact .inr ⟨nofun, rfl⟩
  | true =>
      cases hasked : editor.quitRequested with
      | false => exact .inl ⟨rfl, rfl, rfl⟩
      | true => exact .inr ⟨fun _ => rfl, rfl⟩

/-- A key that asks for anything but to quit takes a request to quit back. -/
theorem editor_handleKey (editor : Editor) {key : Int} {action : Action}
    (haction : Action.ofKey? key = some action) (hquit : action ≠ .quit) :
    (editor.handleKey key).1 = (act { editor with quitRequested := false } action).1 := by
  rw [handleKey]
  split
  · next hasked => exact absurd (Option.some.inj (haction.symm.trans hasked)) hquit
  · next hother =>
    cases hother.symm.trans haction
    split
    · next hact => rw [hact]
    · next hact => rw [hact]
  · next hnone => cases hnone.symm.trans haction

theorem editor_act_save (editor : Editor) : (editor.act .save).1 = (editor.save none).1 := by
  rw [act]
  split
  · next hsave => rw [hsave]
  · next hsave => rw [hsave]

theorem editor_handleKey_save (editor : Editor) :
    (editor.handleKey Key.save).1 = (save { editor with quitRequested := false } none).1 := by
  have haction : Action.ofKey? Key.save = some .save := by decide
  rw [editor_handleKey editor haction nofun, editor_act_save]

/-- A key that does not quit or save leaves what the action leaves that it asks for, or what
the one leaves that does nothing. -/
theorem exists_act_handleKey (editor : Editor) {key : Int} (hquit : key ≠ Key.quit)
    (hsave : key ≠ Key.save) :
    ∃ action, action ≠ .save ∧ (action = .quit ∨ Action.ofKey? key = some action) ∧
      (editor.handleKey key).1 = (act { editor with quitRequested := false } action).1 := by
  cases haction : Action.ofKey? key with
  | none =>
      refine ⟨.quit, nofun, .inl rfl, ?_⟩
      rw [handleKey, haction]
      rfl
  | some action =>
      have hnoquit : action ≠ .quit := by
        rintro rfl
        exact hquit (Action.key_eq_of_quit haction)
      have hnosave : action ≠ .save := by
        rintro rfl
        exact hsave (Action.key_eq_of_save haction)
      exact ⟨action, hnosave, .inr rfl, editor_handleKey editor haction hnoquit⟩

/-- A request to quit leaves a warning at most; every other key saves or does what an action
does. -/
theorem handleKey_cases (editor : Editor) (key : Int) :
    (∃ asked status since, (editor.handleKey key).1 =
        { editor with quitRequested := asked, status := status, statusSince := since }) ∨
      (editor.handleKey key).1 = (save { editor with quitRequested := false } none).1 ∨
      (key ≠ Key.quit ∧ key ≠ Key.save ∧
        ∃ action, action ≠ .save ∧ (action = .quit ∨ Action.ofKey? key = some action) ∧
          (editor.handleKey key).1 = (act { editor with quitRequested := false } action).1) := by
  by_cases hquit : key = Key.quit
  · left
    rw [hquit, handleKey_quit]
    obtain ⟨-, -, hask⟩ | ⟨-, hask⟩ := askToQuit_cases editor
    · rw [hask]
      exact ⟨true, _, _, rfl⟩
    · rw [hask]
      exact ⟨_, _, _, rfl⟩
  · by_cases hsave : key = Key.save
    · right
      left
      rw [hsave, editor_handleKey_save]
    · exact .inr (.inr ⟨hquit, hsave, exists_act_handleKey editor hquit hsave⟩)

theorem Attended.minds_handleKey (h : editor.Attended) {key : Int} (hquit : key ≠ Key.quit)
    (hsave : key ≠ Key.save) :
    Minds { editor with quitRequested := false } (editor.handleKey key).1 := by
  have hunasked : Attended { editor with quitRequested := false } := h.of_session rfl
  obtain ⟨action, haction, -, hkey⟩ := exists_act_handleKey editor hquit hsave
  rw [hkey]
  exact hunasked.minds_act haction

end Editor

end MarkupEditor
