import MarkupEditor.Proofs.Editor.Keys
import MarkupEditor.Proofs.Editor.Ready
import MarkupEditor.Proofs.Editor.Unsaved
import MarkupEditor.Proofs.Session.Rebuilt

/-!
# Runs of operations

An editor of an empty text is ready to be drawn, and stays so whatever is done with it:
keys and loading bring plain text and keep the cursor in it, a change of the size makes
new panes, and drawing scrolls to no line above the first.
-/

namespace MarkupEditor

namespace Editor

/-- The editor that an operation leaves. -/
def operate (editor : Editor) (operation : Operation) : Editor :=
  ((Sitting.begin editor).step operation).editor

/-- The editor that operations leave, one after another. -/
def runAll (editor : Editor) (operations : List Operation) : Editor :=
  operations.foldl operate editor

variable {palette : Palette} {editor : Editor}

theorem operate_load (editor : Editor) (filename : String) :
    editor.operate (.load filename) = (editor.load filename).1 := by
  change ((Sitting.begin editor).step (.load filename)).editor = _
  rw [Sitting.step]
  split
  · next hload => exact (congrArg Prod.fst hload).symm
  · next hload => exact (congrArg Prod.fst hload).symm

/-! ### Edits and movements -/

/-- What edits of plain text and movements leave of an editor in the colors of a palette. -/
structure Continues (before after : Editor) : Prop where
  palette : after.session.buffer.palette = before.session.buffer.palette
  tinted : after.session.buffer.Tinted
  filename : after.filename = before.filename
  topLine : after.topLine = before.topLine
  height : after.height = before.height
  code : after.code = before.code
  statusLine : after.statusLine = before.statusLine
  pairs : after.pairs = before.pairs

theorem continues_moveTo (h : editor.session.buffer.Tinted) (cursor : Int) :
    editor.Continues (editor.moveTo cursor) :=
  ⟨rfl, h, rfl, rfl, rfl, rfl, rfl, rfl⟩

open Session in
/-- A command that edits but brings no attributes, accepted or refused. -/
theorem Sound.continues_perform (h : editor.Sound) (htinted : editor.session.buffer.Tinted)
    {command : Command} (hedits : command.Edits) (hplain : command.Unstyled) :
    editor.Continues (editor.perform command).1 := by
  obtain ⟨given, hgiven⟩ := hedits.exists_mutation? editor.session.buffer.length
  suffices hbuffer : (editor.session.run command).session.buffer.Tinted ∧
      (editor.session.run command).session.buffer.palette = editor.session.buffer.palette from
    ⟨hbuffer.2, hbuffer.1, rfl, rfl, rfl, rfl, rfl, rfl⟩
  by_cases hfits : ∃ mutation, given = .ok mutation ∧ mutation.Fits editor.session.buffer.length
  · obtain ⟨mutation, rfl, hfits⟩ := hfits
    obtain ⟨after, notice, hmutate, hafter, hpalette⟩ :=
      Buffer.exists_mutate_tinted h.consistent htinted hfits (hplain.mutation hgiven)
    have hsame : (editor.session.run command).session.buffer = after :=
      h.silent.buffer_execute (idle_reactWithin _) hgiven hmutate
    rw [hsame]
    exact ⟨hafter, hpalette⟩
  · obtain ⟨failure, hrun⟩ := exists_execute_refused
      (reactWithin (editor.session.reactionsLeft + command.reactions)) hgiven
      fun mutation hok hplace => hfits ⟨mutation, hok, hplace⟩
    rw [run, hrun]
    exact ⟨htinted, rfl⟩

theorem Sound.continues_act (h : editor.Sound) (htinted : editor.session.buffer.Tinted)
    {action : Action} (hsave : action ≠ .save) : editor.Continues (editor.act action).1 := by
  obtain ⟨stop, hact | ⟨start, coordinates, text, -, hact⟩⟩ := act_cases editor hsave
  · rw [hact]
    exact continues_moveTo htinted stop
  · have hmoved : (editor.moveTo start).Sound := h.of_session rfl
    have hedits : (Command.replace coordinates (.plain text)).Edits := trivial
    have hcontinues := hmoved.continues_perform htinted hedits trivial
    rw [hact]
    exact ⟨hcontinues.palette, hcontinues.tinted, rfl, rfl, rfl, rfl, rfl, rfl⟩

/-! ### Every operation leaves the editor ready -/

theorem Ready.of_continues (h : editor.Ready palette) {after : Editor}
    (hcontinues : editor.Continues after) {grid : Grid} (hshows : after.Shows grid) :
    after.Ready palette where
  toSound := hshows.sound
  nonneg := hshows.nonneg
  le := hshows.le
  topLine := hcontinues.topLine ▸ h.topLine
  colored := hcontinues.palette.trans h.colored
  tinted := hcontinues.tinted
  numbered := hcontinues.pairs ▸ h.numbered
  pane := by
    rw [hcontinues.code, visibleLines, hcontinues.height]
    exact h.pane
  statusLine := hcontinues.statusLine ▸ h.statusLine

theorem Ready.shows (h : editor.Ready palette) : editor.Shows (Grid.ofEditor editor) :=
  ⟨h.toSound, h.nonneg, h.le, rfl⟩

theorem ready_start {session : Session} {filename : Option String} {screen : Screen} {disk : Disk}
    {clock : Instant} (h : start session filename screen disk clock = .ok editor)
    (hconsistent : session.buffer.Consistent) (hsilent : session.Silent)
    (htext : session.buffer.text = []) : editor.Ready session.buffer.palette := by
  have hsound : editor.Sound := sound_start h hconsistent hsilent
  have htinted : session.buffer.Tinted := hconsistent.tinted_of_text_eq_nil htext
  rw [start] at h
  split at h
  · cases h
  · cases h
    exact
      { toSound := hsound
        nonneg := Int.le_refl 0
        le := Int.natCast_nonneg _
        topLine := Int.le_refl 0
        colored := rfl
        tinted := htinted
        numbered := ColorPairs.numbered_new _ _
        pane := ⟨_, rfl, rfl⟩
        statusLine := ⟨_, rfl, rfl⟩ }

theorem Sound.continues_handleKey (h : editor.Sound) (htinted : editor.session.buffer.Tinted)
    {key : Int} (hquit : key ≠ Key.quit) (hsave : key ≠ Key.save) :
    Continues { editor with quitRequested := false } (editor.handleKey key).1 := by
  have hunasked : Sound { editor with quitRequested := false } := h.of_session rfl
  obtain ⟨action, haction, -, hkey⟩ := exists_act_handleKey editor hquit hsave
  rw [hkey]
  exact hunasked.continues_act htinted haction

theorem Ready.save (h : editor.Ready palette) (filename : Option String) :
    (editor.save filename).1.Ready palette := by
  obtain ⟨saved, hsave, hframe⟩ | ⟨tried, answer, hsave, -, hframe⟩ := save_cases editor filename
  · rw [hsave, hframe]
    exact { h with }
  · rw [hsave, hframe]
    exact { h with }

theorem Ready.handleKey (h : editor.Ready palette) (key : Int) :
    (editor.handleKey key).1.Ready palette := by
  have hunasked : Ready palette { editor with quitRequested := false } := { h with }
  obtain ⟨_, _, _, hquit⟩ | hsave | ⟨hquit, hsave, -⟩ := handleKey_cases editor key
  · rw [hquit]
    exact { h with }
  · rw [hsave]
    exact hunasked.save none
  · -- What the key does on a grid keeps the cursor in the text; all else continues.
    obtain ⟨after, hkey, hshows, -⟩ := h.shows.exists_handleKey hsave hquit
    have hcontinues := h.toSound.continues_handleKey h.tinted hquit hsave
    rw [hkey] at hcontinues ⊢
    exact hunasked.of_continues hcontinues hshows

theorem Ready.load (h : editor.Ready palette) (filename : String) :
    (editor.load filename).1.Ready palette := by
  rw [Editor.load]
  split
  · exact h
  · next bytes hread =>
    obtain ⟨changed, hperform, hedited⟩ := h.exists_setText (TextFile.read bytes)
    have hedits : (Command.setText (.plain (TextFile.read bytes))).Edits := trivial
    have hcontinues := h.toSound.continues_perform h.tinted hedits trivial
    rw [hperform] at hcontinues
    simp only [hperform]
    exact
      { toSound := hedited.sound.of_session rfl
        nonneg := Int.le_refl 0
        le := Int.natCast_nonneg _
        topLine := Int.le_refl 0
        colored := hcontinues.palette.trans h.colored
        tinted := hcontinues.tinted
        numbered := hcontinues.pairs ▸ h.numbered
        pane := by
          change ∃ pane, changed.code = some pane ∧ pane.height = changed.height - 1
          rw [hcontinues.code, hcontinues.height]
          exact h.pane
        statusLine := hcontinues.statusLine ▸ h.statusLine }

theorem Ready.resize (h : editor.Ready palette) : editor.resize.Ready palette :=
  { h with pane := ⟨_, rfl, rfl⟩, statusLine := ⟨_, rfl, rfl⟩ }

/-! ### Drawing -/

theorem scrolled_nonneg {topLine : Int} (h : 0 ≤ topLine) (visible : Int) (line : Nat) :
    0 ≤ scrolled topLine visible line := by
  rw [scrolled]
  split
  · omega
  · split
    · omega
    · exact h

theorem Ready.scrollToCursor (h : editor.Ready palette) : editor.scrollToCursor.Ready palette :=
  { h with topLine := scrolled_nonneg h.topLine _ _ }

theorem Ready.drawNumbers (h : editor.Ready palette) : editor.drawNumbers.Ready palette := by
  rw [Editor.drawNumbers]
  split
  · exact h
  · exact { h with }

theorem Ready.drawStatus (h : editor.Ready palette) : editor.drawStatus.1.Ready palette := by
  obtain ⟨pane, hpane, hheight⟩ := h.statusLine
  simp only [Editor.drawStatus, hpane]
  split
  · exact { h with statusLine := ⟨_, rfl, hheight⟩ }
  · exact { h with statusLine := ⟨_, rfl, hheight⟩ }

theorem Ready.drawCode (h : editor.Ready palette) : editor.drawCode.1.Ready palette := by
  obtain ⟨pane, hpane, hheight⟩ := h.pane
  obtain ⟨painting, screen, hdraw, -, hpaints⟩ := h.exists_drawCode hpane hheight
  rw [hdraw]
  exact { h with numbered := hpaints.later.numbered h.numbered, pane := ⟨_, rfl, hheight⟩ }

theorem Ready.refresh (h : editor.Ready palette) : editor.refresh.1.Ready palette := by
  have hdrawn := h.scrollToCursor.drawNumbers.drawCode
  rw [Editor.refresh]
  split
  · next drawn failure hcode =>
    rw [hcode] at hdrawn
    exact hdrawn
  · next drawn hcode =>
    rw [hcode] at hdrawn
    have hshown : drawn.drawStatus.1.Ready palette := Ready.drawStatus hdrawn
    split
    · next shown failure hstatus =>
      rw [hstatus] at hshown
      exact hshown
    · next shown hstatus =>
      rw [hstatus] at hshown
      exact { hshown with }

/-! ### Runs -/

theorem Ready.operate (h : editor.Ready palette) (operation : Operation) :
    (editor.operate operation).Ready palette := by
  cases operation with
  | key code => exact h.handleKey code
  | load filename =>
      rw [operate_load]
      exact h.load filename
  | save filename => exact h.save filename
  | resize => exact h.resize
  | refresh => exact h.refresh
  | surroundings screen disk clock => exact { h with }

theorem Ready.runAll (h : editor.Ready palette) (operations : List Operation) :
    (editor.runAll operations).Ready palette := by
  induction operations generalizing editor with
  | nil => exact h
  | cons operation rest ih => exact ih (h.operate operation)

end Editor

end MarkupEditor
