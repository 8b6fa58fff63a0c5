import MarkupEditor.Proofs.Editor.Attended
import MarkupEditor.Proofs.Session.Reached

/-!
# No unsaved text is lost by quitting

A sitting at the editor is what is done with it from its start on: keys, loading, saving,
and drawing, while files, screen and clock may change by themselves.  Beside the editor
it has the text that was kept last, and what became of the last key.  While the text is
another one than this, only a request to quit that follows on a warning ends the editor.
-/

namespace MarkupEditor

/-- What became of a key, and the status that it left. -/
structure Answered where
  key : Int
  answer : Except Failure Bool
  status : Option String

structure Sitting where
  editor : Editor
  /-- The text as it was loaded or saved last, or found at the start. -/
  kept : List Char
  last : Option Answered

/-- What can be done with an editor, or happens around it. -/
inductive Operation where
  | key (code : Int)
  | load (filename : String)
  | save (filename : Option String)
  | resize
  | refresh
  /-- The screen, the disk and the clock are no longer the same. -/
  | surroundings (screen : Screen) (disk : Disk) (clock : Instant)

/-- The text that is kept when a save has been tried. -/
def Editor.keptBySave (editor : Editor) (filename : Option String) (kept : List Char) :
    List Char :=
  match (editor.save filename).2 with
  | .ok true => editor.text
  | _ => kept

namespace Sitting

def begin (editor : Editor) : Sitting := ⟨editor, editor.text, none⟩

def step (sitting : Sitting) : Operation → Sitting
  | .key code =>
    let (changed, answer) := sitting.editor.handleKey code
    { editor := changed
      kept :=
        if code = Key.save then sitting.editor.keptBySave none sitting.kept else sitting.kept
      last := some ⟨code, answer, changed.status⟩ }
  | .load filename =>
    match sitting.editor.load filename with
    | (loaded, none) => { sitting with editor := loaded, kept := loaded.text }
    | (tried, some _) => { sitting with editor := tried }
  | .save filename =>
    { sitting with
      editor := (sitting.editor.save filename).1
      kept := sitting.editor.keptBySave filename sitting.kept }
  | .resize => { sitting with editor := sitting.editor.resize }
  | .refresh => { sitting with editor := sitting.editor.refresh.1 }
  | .surroundings screen disk clock =>
    { sitting with editor := { sitting.editor with screen := screen, disk := disk, clock := clock } }

/-- The last key has ended the editor. -/
def Over (sitting : Sitting) : Prop := ∃ last, sitting.last = some last ∧ last.answer = .ok false

/-- The last key was a request to quit and has been answered by the warning. -/
def Warned (sitting : Sitting) : Prop :=
  sitting.last = some ⟨Key.quit, .ok true, some Editor.unsavedWarning⟩

/-- The sittings that operations lead to, up to the key that ends the editor. -/
inductive Reached (start : Sitting) : Sitting → Prop
  | start : Reached start start
  | step {sitting : Sitting} (h : Reached start sitting) (hopen : ¬ sitting.Over)
      (operation : Operation) : Reached start (sitting.step operation)

/-- What every operation keeps. -/
structure Guarded (sitting : Sitting) : Prop where
  attended : sitting.editor.Attended
  kept : sitting.editor.modified = false → sitting.editor.text = sitting.kept
  warned : ¬ sitting.Over → sitting.editor.quitRequested = true → sitting.Warned

open Editor

variable {sitting : Sitting}

theorem guarded_begin {editor : Editor} (h : editor.Attended)
    (hasked : editor.quitRequested = false) :
    (begin editor).Guarded where
  attended := h
  kept _ := rfl
  warned _ hrequested := by cases hasked.symm.trans hrequested

theorem Guarded.drawn (h : sitting.Guarded) {after : Editor}
    (hsame : sitting.editor.SameText after) : Guarded { sitting with editor := after } where
  attended := h.attended.of_session hsame.session
  kept hunmodified := by
    change after.text = sitting.kept
    rw [text, hsame.session]
    exact h.kept (hsame.modified.symm.trans hunmodified)
  warned hopen hrequested := h.warned hopen (hsame.asked.symm.trans hrequested)

/-- A save that is tried, whether it succeeds or not. -/
theorem Guarded.saved (h : sitting.Guarded) (filename : Option String) :
    (sitting.editor.save filename).1.Attended ∧
      ((sitting.editor.save filename).1.modified = false →
        (sitting.editor.save filename).1.text = sitting.editor.keptBySave filename sitting.kept) ∧
      (sitting.editor.save filename).1.quitRequested = sitting.editor.quitRequested := by
  obtain ⟨saved, hsave, hframe⟩ | ⟨tried, answer, hsave, hanswer, hframe⟩ :=
    save_cases sitting.editor filename
  · rw [keptBySave, hsave, hframe]
    exact ⟨h.attended.of_session rfl, fun _ => rfl, rfl⟩
  · have hkept : sitting.editor.keptBySave filename sitting.kept = sitting.kept := by
      rw [keptBySave, hsave]
      split
      · next hok => exact absurd hok hanswer
      · rfl
    rw [hkept, hsave, hframe]
    exact ⟨h.attended.of_session rfl, h.kept, rfl⟩

/-- A request to quit makes no difference to a save. -/
theorem answer_save_unasked (editor : Editor) (filename : Option String) :
    (save { editor with quitRequested := false } filename).2 = (editor.save filename).2 := by
  rw [save.eq_def, save.eq_def]
  cases named? filename <|> named? editor.filename with
  | none => rfl
  | some name =>
      simp only [text]
      cases editor.disk.write name (TextFile.write editor.session.buffer.text) with
      | error failure =>
          dsimp only
          cases failure.isOfDisk <;> rfl
      | ok disk => rfl

theorem Guarded.step_key (h : sitting.Guarded) (code : Int) :
    (sitting.step (.key code)).Guarded := by
  have hunasked : Guarded { sitting with editor := { sitting.editor with quitRequested := false } } :=
    ⟨h.attended.of_session rfl, h.kept, nofun⟩
  by_cases hquit : code = Key.quit
  · subst hquit
    rw [step, handleKey_quit]
    obtain ⟨hmodified, -, hask⟩ | ⟨hrequested, hask⟩ := askToQuit_cases sitting.editor
    · rw [hask]
      refine ⟨h.attended.of_session rfl, ?_, fun _ _ => rfl⟩
      intro hunmodified
      cases hmodified.symm.trans hunmodified
    · rw [hask]
      exact ⟨h.attended, h.kept, fun hopen => absurd ⟨_, rfl, rfl⟩ hopen⟩
  · by_cases hsave : code = Key.save
    · subst hsave
      have hchanged := editor_handleKey_save sitting.editor
      have hsame : keptBySave { sitting.editor with quitRequested := false } none sitting.kept =
          sitting.editor.keptBySave none sitting.kept := by
        rw [keptBySave, keptBySave, answer_save_unasked]
        rfl
      obtain ⟨hattended, hkept, hasked⟩ := hunasked.saved none
      rw [hsame] at hkept
      rw [← hchanged] at hattended hkept hasked
      rw [step, if_pos rfl]
      exact ⟨hattended, hkept, fun _ hrequested => by cases hasked.symm.trans hrequested⟩
    · have hminds := h.attended.minds_handleKey hquit hsave
      rw [step, if_neg hsave]
      refine ⟨hminds.attended, ?_, ?_⟩
      · intro hunmodified
        obtain ⟨hbefore, htext⟩ := hminds.unmodified hunmodified
        exact htext.trans (h.kept hbefore)
      · intro _ hrequested
        cases hminds.asked.symm.trans hrequested

theorem Guarded.step (h : sitting.Guarded) (operation : Operation) :
    (sitting.step operation).Guarded := by
  cases operation with
  | key code => exact h.step_key code
  | load filename =>
      rw [Sitting.step]
      obtain ⟨loaded, hload, hattended, hmodified, hasked⟩ | ⟨failure, hload⟩ :=
        h.attended.load_cases filename
      · rw [hload]
        exact ⟨hattended, fun _ => rfl,
          fun hopen hrequested => h.warned hopen (hasked.symm.trans hrequested)⟩
      · rw [hload]
        exact h
  | save filename =>
      obtain ⟨hattended, hkept, hasked⟩ := h.saved filename
      exact ⟨hattended, hkept,
        fun hopen hrequested => h.warned hopen (hasked.symm.trans hrequested)⟩
  | resize => exact h.drawn ⟨rfl, rfl, rfl⟩
  | refresh => exact h.drawn (sameText_refresh sitting.editor)
  | surroundings screen disk clock => exact h.drawn ⟨rfl, rfl, rfl⟩

theorem Guarded.reached {start : Sitting} (h : start.Guarded) (hreached : Reached start sitting) :
    sitting.Guarded := by
  induction hreached with
  | start => exact h
  | step _ _ operation ih => exact ih.step operation

/-- Only a request to quit ends a sitting. -/
theorem not_over_step_key (sitting : Sitting) {code : Int} (hquit : code ≠ Key.quit) :
    ¬ (sitting.step (.key code)).Over := by
  rintro ⟨last, hlast, hends⟩
  have hanswer : (sitting.editor.handleKey code).2 = last.answer :=
    congrArg Answered.answer (Option.some.inj hlast)
  exact answer_ne_false sitting.editor hquit (hanswer.trans hends)

theorem Guarded.modified_of_unsaved (h : sitting.Guarded)
    (hunsaved : sitting.editor.text ≠ sitting.kept) : sitting.editor.modified = true := by
  cases hmodified : sitting.editor.modified with
  | false => exact absurd (h.kept hmodified) hunsaved
  | true => rfl

/-- Whatever has been done with an editor from its start on, a text that counts as
unmodified is the one kept last.  Any other text is given up only for a request to quit
right behind one that the warning has answered; a request behind another key, or behind
none, is answered by the warning.  A save that fails leaves the text, the cursor and the
name of the file as they are, and the text as modified as it was. -/
theorem warned_of_reached (font : Value) (roles : Roles) {session : Session}
    (hreached : Session.Reached (.new (.new font roles)) session) (hsilent : session.Silent)
    (hdepth : session.buffer.depth = 0) {filename : Option String} {screen : Screen} {disk : Disk}
    {clock : Instant} {editor : Editor}
    (hstart : start session filename screen disk clock = .ok editor)
    (h : Reached (begin editor) sitting) :
    (sitting.editor.modified = false → sitting.editor.text = sitting.kept) ∧
      (¬ sitting.Over → sitting.editor.text ≠ sitting.kept →
        (∀ key, (sitting.editor.handleKey key).2 = .ok false → key = Key.quit ∧ sitting.Warned) ∧
          ((∀ last, sitting.last = some last → last.key ≠ Key.quit) →
            ∃ asked, sitting.editor.handleKey Key.quit = (asked, .ok true) ∧
              asked.status = some unsavedWarning ∧ asked.text = sitting.editor.text)) ∧
      ∀ name answer tried, sitting.editor.save name = (tried, answer) → answer ≠ .ok true →
        tried.text = sitting.editor.text ∧ tried.cursor = sitting.editor.cursor ∧
          tried.modified = sitting.editor.modified ∧ tried.filename = sitting.editor.filename := by
  have hconsistent : session.buffer.Consistent :=
    Session.keptByBuffers_consistent.reached hreached (Buffer.consistent_new font roles)
  have hattended : editor.Attended := attended_start hstart hconsistent hsilent hdepth
  obtain ⟨-, -, -, hunasked⟩ := fields_of_start hstart
  have hguarded : sitting.Guarded := (guarded_begin hattended hunasked).reached h
  refine ⟨hguarded.kept, ?_, ?_⟩
  · intro hopen hunsaved
    have hmodified := hguarded.modified_of_unsaved hunsaved
    constructor
    · intro key hends
      have hquit : key = Key.quit := by
        by_contra hother
        exact answer_ne_false sitting.editor hother hends
      subst hquit
      refine ⟨rfl, hguarded.warned hopen ?_⟩
      obtain ⟨-, -, hask⟩ | ⟨hrequested, -⟩ := askToQuit_cases sitting.editor
      · rw [handleKey_quit, hask] at hends
        cases hends
      · exact hrequested hmodified
    · intro hother
      obtain ⟨-, -, hask⟩ | ⟨hrequested, -⟩ := askToQuit_cases sitting.editor
      · rw [handleKey_quit, hask]
        exact ⟨_, rfl, rfl, rfl⟩
      · have hwarned : sitting.Warned := hguarded.warned hopen (hrequested hmodified)
        exact absurd rfl (hother _ hwarned)
  · intro name answer tried hsave hfailed
    obtain ⟨saved, hsaved, -⟩ | ⟨left, given, hleft, -, hframe⟩ := save_cases sitting.editor name
    · cases hsave.symm.trans hsaved
      exact absurd rfl hfailed
    · cases hsave.symm.trans hleft
      rw [hframe]
      exact ⟨rfl, rfl, rfl, rfl⟩

/-- A character is typed and is not to be lost. -/
theorem warned_of_reached_typed :
    ∃ editor, start (.new (.new hiddenFont .standard)) none ⟨24, 80, 8, 64, .console, []⟩ .empty 0 =
        .ok editor ∧
      ∃ asked, ((begin editor).step (.key 97)).editor.handleKey Key.quit = (asked, .ok true) ∧
        asked.status = some unsavedWarning ∧ asked.text = ['a'] := by
  obtain ⟨editor, hstart, htext, htyped⟩ : ∃ editor,
      start (.new (.new hiddenFont .standard)) none ⟨24, 80, 8, 64, .console, []⟩ .empty 0 =
          .ok editor ∧
        editor.text = [] ∧ ((begin editor).step (.key 97)).editor.text = ['a'] :=
    ⟨_, rfl, rfl, by decide +kernel⟩
  have hfresh : ¬ (begin editor).Over := by
    rintro ⟨last, hlast, -⟩
    cases hlast
  have hreached : Reached (begin editor) ((begin editor).step (.key 97)) :=
    Reached.start.step hfresh (.key 97)
  have hopen : ¬ ((begin editor).step (.key 97)).Over := not_over_step_key _ (by decide)
  have hunsaved : ((begin editor).step (.key 97)).editor.text ≠
      ((begin editor).step (.key 97)).kept := by
    rw [htyped]
    change ['a'] ≠ editor.text
    rw [htext]
    exact List.cons_ne_nil _ _
  have hother : ∀ last, ((begin editor).step (.key 97)).last = some last →
      last.key ≠ Key.quit := by
    intro last hlast
    have hkey : (97 : Int) = last.key := congrArg Answered.key (Option.some.inj hlast)
    rw [← hkey]
    decide
  obtain ⟨-, hwarns, -⟩ :=
    warned_of_reached hiddenFont .standard .start (Session.silent_new _) rfl hstart hreached
  obtain ⟨asked, hasked, hstatus, hsame⟩ := (hwarns hopen hunsaved).2 hother
  exact ⟨editor, hstart, asked, hasked, hstatus, hsame.trans htyped⟩

end Sitting

end MarkupEditor
