import MarkupEditor.Editor.Draw

/-!
# What drawing leaves alone

Each part of a refresh has its own pane; the code also asks for color pairs, and scrolling
may move the first line shown.  All else of the editor stays as it is.
-/

namespace MarkupEditor.Editor

theorem drawNumbers_frame (editor : Editor) :
    editor.drawNumbers = { editor with
      numbers := editor.drawNumbers.numbers, screen := editor.drawNumbers.screen } := by
  rw [drawNumbers]
  split <;> rfl

theorem drawCode_frame (editor : Editor) :
    editor.drawCode.1 = { editor with
      code := editor.drawCode.1.code, pairs := editor.drawCode.1.pairs
      screen := editor.drawCode.1.screen } := by
  rw [drawCode]
  split
  · rfl
  · dsimp only
    split <;> rfl

theorem drawStatus_frame (editor : Editor) :
    editor.drawStatus.1 = { editor with
      statusLine := editor.drawStatus.1.statusLine, screen := editor.drawStatus.1.screen } := by
  rw [drawStatus]
  split
  · rfl
  · dsimp only
    split <;> rfl

/-! ### The device and the status -/

theorem refresh_eq (editor : Editor) :
    ∃ statusLine screen, editor.refresh =
      ({ editor.scrollToCursor.drawNumbers.drawCode.1 with
          statusLine := statusLine, screen := screen },
        editor.scrollToCursor.drawNumbers.drawCode.2.or
          editor.scrollToCursor.drawNumbers.drawCode.1.drawStatus.2) := by
  rw [refresh]
  split
  · next drawn failure hcode =>
    rw [hcode]
    exact ⟨drawn.statusLine, drawn.screen, rfl⟩
  · next drawn hcode =>
    have hframe := drawStatus_frame drawn
    rw [hcode]
    generalize drawn.drawStatus = status at hframe ⊢
    obtain ⟨shown, failed⟩ := status
    replace hframe : shown =
        { drawn with statusLine := shown.statusLine, screen := shown.screen } := hframe
    cases failed with
    | some failure => exact ⟨shown.statusLine, shown.screen, by rw [← hframe]; rfl⟩
    | none =>
        refine ⟨shown.statusLine, shown.screen.request [.update], ?_⟩
        rw [hframe]
        rfl

/-- What a refresh leaves: it scrolls, draws the gutter, then the code, and behind these at
most the status line. -/
theorem refresh_frame (editor : Editor) :
    editor.refresh.1 = { editor with
      topLine := editor.scrollToCursor.topLine
      numbers := editor.scrollToCursor.drawNumbers.numbers
      code := editor.scrollToCursor.drawNumbers.drawCode.1.code
      statusLine := editor.refresh.1.statusLine
      pairs := editor.scrollToCursor.drawNumbers.drawCode.1.pairs
      screen := editor.refresh.1.screen } := by
  obtain ⟨statusLine, screen, hrefresh⟩ := refresh_eq editor
  have hcode := drawCode_frame editor.scrollToCursor.drawNumbers
  have hnumbers := drawNumbers_frame editor.scrollToCursor
  rw [hrefresh]
  generalize editor.scrollToCursor.drawNumbers.drawCode = drawn at hcode ⊢
  generalize editor.scrollToCursor.drawNumbers = numbered at hcode hnumbers ⊢
  rw [hcode, hnumbers]
  rfl

/-- A refresh fails where the code cannot be drawn, or else the status line. -/
theorem refresh_failure (editor : Editor) :
    editor.refresh.2 = editor.scrollToCursor.drawNumbers.drawCode.2.or
      editor.scrollToCursor.drawNumbers.drawCode.1.drawStatus.2 := by
  obtain ⟨statusLine, screen, hrefresh⟩ := refresh_eq editor
  rw [hrefresh]

end MarkupEditor.Editor
