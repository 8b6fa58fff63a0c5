import MarkupEditor.Proofs.Editor.Faultless
import MarkupEditor.Proofs.Storage.Files
import MarkupEditor.Proofs.Storage.TextFile

/-!
# Saved and loaded again

A character comes into the text from a key or from a file that is loaded.  No key inserts a
carriage return, and loading leaves none, so the texts of the editor are among those that are
read as they were written.
-/

namespace MarkupEditor

theorem Text.mem_or_mem_of_mem_replaceSpan {c : Char} {start length : Nat} {new text : List Char}
    (h : c ∈ replaceSpan start length new text) : c ∈ new ∨ c ∈ text := by
  rw [replaceSpan_eq] at h
  obtain hfront | hbehind := List.mem_append.1 h
  · obtain hbefore | hnew := List.mem_append.1 hfront
    · exact .inr (List.mem_of_mem_take hbefore)
    · exact .inl hnew
  · exact .inr (List.mem_of_mem_drop hbehind)

namespace Editor

variable {palette : Palette} {editor : Editor}

/-! ### Where characters come from -/

theorem Sound.mem_text_act (h : editor.Sound) {action : Action} (hsave : action ≠ .save) {c : Char}
    (hmem : c ∈ (editor.act action).1.text) :
    c ∈ editor.text ∨ ∃ text, action = .insert text ∧ c ∈ text := by
  obtain ⟨stop, hact | ⟨start, coordinates, text, hbrings, hact⟩⟩ := act_cases editor hsave
  · rw [hact] at hmem
    exact .inl hmem
  · have hmoved : (editor.moveTo start).Sound := h.of_session rfl
    rw [hact] at hmem
    obtain hrefused | ⟨place, length, hedited⟩ := hmoved.replace_cases coordinates text
    · rw [hrefused] at hmem
      exact .inl hmem
    · have hafter : c ∈ Text.replaceSpan place length text editor.text := hedited.text ▸ hmem
      obtain hnew | hold := Text.mem_or_mem_of_mem_replaceSpan hafter
      · obtain hempty | hinsert := hbrings
        · rw [hempty] at hnew
          exact absurd hnew List.not_mem_nil
        · exact .inr ⟨text, hinsert, hnew⟩
      · exact .inl hold

theorem text_save (editor : Editor) (given : Option String) :
    (editor.save given).1.text = editor.text := by
  obtain ⟨saved, hsave, hframe⟩ | ⟨tried, answer, hsave, -, hframe⟩ := save_cases editor given
  · rw [hsave, hframe]
    rfl
  · rw [hsave, hframe]
    rfl

theorem Sound.mem_text_handleKey (h : editor.Sound) {key : Int} {c : Char}
    (hmem : c ∈ (editor.handleKey key).1.text) :
    c ∈ editor.text ∨ ∃ text, Action.ofKey? key = some (.insert text) ∧ c ∈ text := by
  obtain ⟨_, _, _, hquit⟩ | hsave | ⟨-, -, action, hother, hasked, hact⟩ :=
    handleKey_cases editor key
  · rw [hquit] at hmem
    exact .inl hmem
  · rw [hsave, text_save] at hmem
    exact .inl hmem
  · have hunasked : Sound { editor with quitRequested := false } := h.of_session rfl
    rw [hact] at hmem
    obtain hold | ⟨text, hinsert, hnew⟩ := hunasked.mem_text_act hother hmem
    · exact .inl hold
    · rw [hinsert] at hasked
      exact .inr ⟨text, hasked.resolve_left nofun, hnew⟩

theorem Sound.mem_text_load (h : editor.Sound) {filename : String} {c : Char}
    (hmem : c ∈ (editor.load filename).1.text) :
    c ∈ editor.text ∨ ∃ bytes, c ∈ TextFile.read bytes := by
  cases hread : editor.disk.read filename with
  | error failure =>
      rw [load, hread] at hmem
      exact .inl hmem
  | ok bytes =>
      obtain ⟨changed, hedited, loaded, hload, hframe⟩ := h.exists_load hread
      rw [hload, hframe] at hmem
      exact .inr ⟨bytes, hedited.text ▸ hmem⟩

theorem Ready.carriageReturn_not_mem_operate (h : editor.Ready palette)
    (hfree : '\r' ∉ editor.text) (operation : Operation) :
    '\r' ∉ (editor.operate operation).text := by
  intro hmem
  cases operation with
  | key code =>
      obtain hold | ⟨text, hinsert, hnew⟩ := h.toSound.mem_text_handleKey hmem
      · exact hfree hold
      · exact Action.carriageReturn_not_mem_of_insert hinsert hnew
  | load filename =>
      rw [operate_load] at hmem
      obtain hold | ⟨bytes, hnew⟩ := h.toSound.mem_text_load hmem
      · exact hfree hold
      · exact TextFile.carriageReturn_not_mem_read bytes hnew
  | save given =>
      have hsaved : '\r' ∈ (editor.save given).1.text := hmem
      rw [text_save] at hsaved
      exact hfree hsaved
  | resize => exact hfree hmem
  | refresh =>
      have hdrawn : '\r' ∈ editor.refresh.1.text := hmem
      rw [refresh_frame] at hdrawn
      exact hfree hdrawn
  | surroundings screen disk clock => exact hfree hmem

theorem Ready.carriageReturn_not_mem_runAll (h : editor.Ready palette)
    (hfree : '\r' ∉ editor.text) (operations : List Operation) :
    '\r' ∉ (editor.runAll operations).text := by
  induction operations generalizing editor with
  | nil => exact hfree
  | cons operation rest ih =>
      exact ih (h.operate operation) (h.carriageReturn_not_mem_operate hfree operation)

/-! ### Saving, then loading -/

/-- What is left by a save under a name. -/
structure SavesTo (before : Editor) (name : String) (after : Editor) : Prop where
  write : before.disk.write name (TextFile.write before.text) = .ok after.disk
  filename : after.filename = some name
  session : after.session = before.session

variable {given : Option String} {name : String} {saved : Editor}

theorem exists_savesTo (h : editor.save given = (saved, .ok true)) :
    ∃ name, (named? given <|> named? editor.filename) = some name ∧ editor.SavesTo name saved := by
  rw [save] at h
  split at h
  · cases h
  · next name hname =>
    split at h
    · split at h
      · cases h
      · cases h
    · next disk hwrite =>
      refine ⟨name, hname, ?_⟩
      cases h
      exact ⟨hwrite, rfl, rfl⟩

theorem exists_save_of_write {disk : Disk}
    (hname : (named? given <|> named? editor.filename) = some name)
    (hwrite : editor.disk.write name (TextFile.write editor.text) = .ok disk) :
    ∃ saved, editor.save given = (saved, .ok true) ∧ editor.SavesTo name saved := by
  simp only [save, hname, hwrite]
  exact ⟨_, rfl, hwrite, rfl, rfl⟩

/-- A text without a carriage return is loaded as it was saved. -/
theorem SavesTo.exists_load (hsaves : editor.SavesTo name saved) (h : editor.Sound)
    (hfree : '\r' ∉ editor.text) :
    ∃ loaded, saved.load name = (loaded, none) ∧ loaded.text = editor.text ∧
      loaded.modified = false ∧ loaded.cursor = 0 := by
  have hsaved : saved.Sound := h.of_session hsaves.session
  have hread : saved.disk.read name = .ok (TextFile.write editor.text) :=
    Disk.read_of_write hsaves.write
  obtain ⟨changed, hedited, loaded, hload, hframe⟩ := hsaved.exists_load hread
  have htext : changed.text = editor.text :=
    hedited.text.trans ((TextFile.read_write_iff _).2 hfree)
  rw [hframe] at hload
  exact ⟨_, hload, htext, rfl, rfl⟩

/-- A file that is loaded can be saved again, and loading it again changes nothing. -/
theorem Sound.exists_load_save_load (h : editor.Sound) {bytes : List UInt8}
    (hread : editor.disk.read name = .ok bytes) :
    ∃ loaded, editor.load name = (loaded, none) ∧ loaded.text = TextFile.read bytes ∧
      ∀ given, given = none ∨ given = some name →
        ∃ saved, loaded.save given = (saved, .ok true) ∧
          ∃ again, saved.load name = (again, none) ∧ again.text = loaded.text := by
  obtain ⟨changed, hedited, loaded, hload, hframe⟩ := h.exists_load hread
  have htext : loaded.text = TextFile.read bytes := by
    rw [hframe]
    exact hedited.text
  refine ⟨loaded, hload, htext, ?_⟩
  intro given hgiven
  have hsound : loaded.Sound := hedited.sound.of_session (by rw [hframe])
  have hnamed : named? (some name) = some name :=
    if_neg (Bool.eq_false_iff.1 (Disk.isEmpty_of_read hread))
  have hname : (named? given <|> named? loaded.filename) = some name := by
    have hfilename : loaded.filename = some name := by rw [hframe]
    obtain rfl | rfl := hgiven
    · rw [hfilename, hnamed]
      rfl
    · rw [hnamed]
      rfl
  have hdirectories : loaded.disk.directories = editor.disk.directories := by
    rw [hframe, hedited.frame]
  obtain ⟨disk, hwrite⟩ :=
    Disk.exists_write_of_read hread hdirectories (TextFile.write loaded.text)
  obtain ⟨saved, hsave, hsaves⟩ := exists_save_of_write hname hwrite
  have hfree : '\r' ∉ loaded.text := htext ▸ TextFile.carriageReturn_not_mem_read bytes
  obtain ⟨again, hagain, hsame, -⟩ := hsaves.exists_load hsound hfree
  exact ⟨saved, hsave, again, hagain, hsame⟩

/-- Of an editor that started with an empty text, whatever is done with it: the text has no
carriage return.  After a save that succeeds, the file is loaded as the text that was saved,
counts as unmodified, and the cursor is at its beginning.  A file that can be read, whatever
its bytes, is loaded, can be saved, and has the same text when it is loaded again. -/
theorem load_of_save_runAll (font : Value) (roles : Roles) {session : Session}
    (hreached : Session.Reached (.new (.new font roles)) session) (hsilent : session.Silent)
    (htext : session.buffer.text = []) {filename : Option String} {screen : Screen} {disk : Disk}
    {clock : Instant} (hstart : start session filename screen disk clock = .ok editor)
    (operations : List Operation) :
    let reached := editor.runAll operations
    '\r' ∉ reached.text ∧
      (∀ given saved, reached.save given = (saved, .ok true) →
        ∃ name, (named? given <|> named? reached.filename) = some name ∧
          saved.text = reached.text ∧
          ∃ loaded, saved.load name = (loaded, none) ∧ loaded.text = reached.text ∧
            loaded.modified = false ∧ loaded.cursor = 0) ∧
      ∀ name bytes, reached.disk.read name = .ok bytes →
        ∃ loaded, reached.load name = (loaded, none) ∧ loaded.text = TextFile.read bytes ∧
          ∀ given, given = none ∨ given = some name →
            ∃ saved, loaded.save given = (saved, .ok true) ∧
              ∃ again, saved.load name = (again, none) ∧ again.text = loaded.text := by
  intro reached
  have hconsistent : session.buffer.Consistent :=
    Session.keptByBuffers_consistent.reached hreached (Buffer.consistent_new font roles)
  have hready := ready_start hstart hconsistent hsilent htext
  have hempty : editor.text = [] := by
    rw [text, (fields_of_start hstart).1]
    exact htext
  have hfree : '\r' ∉ reached.text := by
    refine hready.carriageReturn_not_mem_runAll ?_ operations
    rw [hempty]
    exact List.not_mem_nil
  have hsound : reached.Sound := (hready.runAll operations).toSound
  refine ⟨hfree, ?_, ?_⟩
  · intro given saved hsave
    obtain ⟨name, hname, hsaves⟩ := exists_savesTo hsave
    refine ⟨name, hname, ?_, hsaves.exists_load hsound hfree⟩
    rw [text, hsaves.session]
    rfl
  · intro name bytes hread
    exact hsound.exists_load_save_load hread

/-- A disk with a file that has both kinds of carriage returns, and a byte that begins no
character. -/
def mixedDisk : Disk := ⟨[], [(["a"], ⟨#[97, 13, 10, 0xFF, 13]⟩)]⟩

theorem read_mixedDisk : mixedDisk.read "a" = .ok [97, 13, 10, 0xFF, 13] := Disk.read_only_file _

/-- The file is loaded, a character is typed, and a key is hit that inserts nothing. -/
theorem load_of_save_runAll_mixed :
    ∃ editor, start (.new (.new hiddenFont .standard)) none ⟨24, 80, 8, 64, .console, []⟩ mixedDisk
        0 = .ok editor ∧
      let reached := editor.runAll [.load "a", .key 98, .key 13]
      reached.text = ['b', 'a', '\n', '\uFFFD', '\n'] ∧
        ∃ saved, reached.save none = (saved, .ok true) ∧
          ∃ loaded, saved.load "a" = (loaded, none) ∧ loaded.text = reached.text ∧
            loaded.modified = false ∧ loaded.cursor = 0 := by
  obtain ⟨editor, hstart, htext, hfilename, hdirectories⟩ : ∃ editor,
      start (.new (.new hiddenFont .standard)) none ⟨24, 80, 8, 64, .console, []⟩ mixedDisk 0 =
          .ok editor ∧
        (editor.runAll [.load "a", .key 98, .key 13]).text = ['b', 'a', '\n', '\uFFFD', '\n'] ∧
        (editor.runAll [.load "a", .key 98, .key 13]).filename = some "a" ∧
        (editor.runAll [.load "a", .key 98, .key 13]).disk.directories = [] := by
    refine ⟨_, rfl, ?_⟩
    rw [runAll, List.foldl_cons, operate_load, load]
    simp only [read_mixedDisk, openPanes, request]
    exact ⟨by decide +kernel, by decide +kernel, by decide +kernel⟩
  obtain ⟨-, hreload, -⟩ := load_of_save_runAll hiddenFont .standard .start
    (Session.silent_new _) rfl hstart [.load "a", .key 98, .key 13]
  refine ⟨editor, hstart, htext, ?_⟩
  generalize editor.runAll [.load "a", .key 98, .key 13] = reached at *
  obtain ⟨disk, hwrite⟩ :=
    Disk.exists_write_of_read read_mixedDisk hdirectories (TextFile.write reached.text)
  have hname : (named? none <|> named? reached.filename) = some "a" := by
    rw [hfilename]
    decide
  obtain ⟨saved, hsave, -⟩ := exists_save_of_write hname hwrite
  obtain ⟨name, hsame, -, hloads⟩ := hreload none saved hsave
  cases hname.symm.trans hsame
  exact ⟨saved, hsave, hloads⟩

end Editor

end MarkupEditor
