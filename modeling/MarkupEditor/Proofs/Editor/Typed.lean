import MarkupEditor.Proofs.Editor.Keys
import MarkupEditor.Proofs.Session.Commuting
import MarkupEditor.Proofs.Session.Undone

/-!
# Characters that are typed and taken back

A key inserts its characters at the cursor, and every backspace takes the last one of them
back.  After as many backspaces as characters the text, the cursor and the runs are those
from before.
-/

namespace MarkupEditor

open RunList

namespace Action

/-- The keys of printable characters, of line feeds and of the tab. -/
def Types (key : Int) : Prop := 32 ≤ key ∧ key ≤ 126 ∨ key ∈ [Key.enter, 10, 9]

/-- How many characters such a key inserts. -/
def typedLength (key : Int) : Nat := if key = 9 then 4 else 1

theorem exists_text_of_types {key : Int} (h : Types key) :
    ∃ text, ofKey? key = some (.insert text) ∧ text.length = typedLength key := by
  obtain hprintable | hbound := h
  · refine ⟨[Char.ofNat key.toNat], if_pos hprintable, ?_⟩
    have hkey : key ≠ 9 := by omega
    rw [typedLength, if_neg hkey]
    rfl
  · simp only [List.mem_cons, List.not_mem_nil, or_false] at hbound
    obtain rfl | rfl | rfl := hbound
    · exact ⟨['\n'], by decide, by decide⟩
    · exact ⟨['\n'], by decide, by decide⟩
    · exact ⟨tabText, by decide, by decide⟩

/-- The keys that take a character back. -/
def backspaces : List Int := [Key.backspace, 127, 8]

theorem ofKey?_of_mem_backspaces {key : Int} (h : key ∈ backspaces) :
    ofKey? key = some .backspace := by
  simp only [backspaces, List.mem_cons, List.not_mem_nil, or_false] at h
  obtain rfl | rfl | rfl := h
  · decide
  · decide
  · decide

/-- Keys that ask for other things neither save nor quit. -/
theorem key_ne_of_ofKey? {key : Int} {action : Action} (h : ofKey? key = some action)
    (hsave : action ≠ .save) (hquit : action ≠ .quit) : key ≠ Key.save ∧ key ≠ Key.quit := by
  constructor
  · rintro rfl
    have hkey : ofKey? Key.save = some .save := by decide
    exact hsave (Option.some.inj (h.symm.trans hkey))
  · rintro rfl
    have hkey : ofKey? Key.quit = some .quit := by decide
    exact hquit (Option.some.inj (h.symm.trans hkey))

end Action

namespace Editor

variable {editor after : Editor}

/-- A key that succeeds has done what it asks for. -/
theorem act_of_handleKey {key : Int} {action : Action} (haction : Action.ofKey? key = some action)
    (hquit : action ≠ .quit) {goesOn : Bool} (h : editor.handleKey key = (after, .ok goesOn)) :
    act { editor with quitRequested := false } action = (after, none) := by
  rw [handleKey] at h
  split at h
  · next hasked => exact absurd (Option.some.inj (haction.symm.trans hasked)) hquit
  · next hother =>
    cases hother.symm.trans haction
    split at h
    · next hact =>
      cases h
      exact hact
    · cases h
  · next hnone => cases hnone.symm.trans haction

/-- Keys that succeed do so one after the other. -/
theorem exists_of_handleKeys_cons {key : Int} {rest : List Int} {answers : List Bool}
    (h : editor.handleKeys (key :: rest) = (after, .ok answers)) :
    ∃ changed goesOn later, editor.handleKey key = (changed, .ok goesOn) ∧
      changed.handleKeys rest = (after, .ok later) := by
  rw [handleKeys] at h
  split at h
  · cases h
  · next changed goesOn hkey =>
    cases hrest : changed.handleKeys rest with
    | mk reached given =>
      rw [hrest] at h
      cases given with
      | error failure => cases h
      | ok later =>
          cases h
          exact ⟨changed, goesOn, later, hkey, hrest⟩

/-- An editor in which characters have been inserted at an offset of an earlier text, with
the cursor behind them. -/
structure Typed (settings : Buffer) (offset : Nat) (typed : List Char) (cell : AttributeSet)
    (editor : Editor) : Prop where
  inserted : editor.session.Inserted settings offset typed cell
  cursor : editor.cursor = offset + typed.length

variable {settings : Buffer} {offset : Nat} {typed : List Char} {cell : AttributeSet}

/-- The news that the editor takes do not change its buffer. -/
theorem inserted_perform {command : Command}
    (h : (editor.session.run command).session.Inserted settings offset typed cell) :
    (editor.perform command).1.session.Inserted settings offset typed cell :=
  ⟨⟨h.carries, h.passive, h.depth⟩, h.colored, h.pending⟩

theorem typed_of_insertText
    (h : editor.session.Resting settings settings.text settings.runs.cells)
    (hcursor : editor.cursor = offset) (hoffset : offset ≤ settings.length)
    (hinsert : editor.insertText typed = (after, none)) :
    after.Typed settings offset typed (inheritedCell settings.runs.cells ⟨offset, 0⟩) := by
  have hmutation (length : Nat) :
      Command.mutation? length (.replace [editor.cursor, 0] (.plain typed)) =
        some (.ok (.replaceCharacters ⟨offset, 0⟩ (.plain typed))) := by
    rw [hcursor]
    exact congrArg some (bind_eq_of_eq_ok (Span.ofInts_natCast offset 0) _)
  have hinserted := inserted_perform (h.insert hoffset hmutation)
  rw [insertText] at hinsert
  split at hinsert
  · cases hinsert
  · next changed hperform =>
    rw [hperform] at hinserted
    have hkept : changed.cursor = editor.cursor :=
      (congrArg (fun outcome => outcome.1.cursor) hperform).symm
    cases hinsert
    exact ⟨hinserted, congrArg (· + (typed.length : Int)) (hkept.trans hcursor)⟩

theorem Typed.of_backspace {kept : List Char} {last : Char}
    (h : editor.Typed settings offset (kept ++ [last]) cell) (hsettings : settings.Consistent)
    (hoffset : offset ≤ settings.length) (hback : editor.backspace = (after, none)) :
    after.Typed settings offset kept cell := by
  have hcursor : editor.cursor - 1 = (offset + kept.length : Nat) := by
    rw [h.cursor, List.length_append, List.length_singleton]
    omega
  have hmutation (length : Nat) :
      Command.mutation? length (.replace [editor.cursor - 1, 1] (.plain [])) =
        some (.ok (.replaceCharacters ⟨offset + kept.length, 1⟩ (.plain []))) := by
    rw [hcursor]
    exact congrArg some (bind_eq_of_eq_ok (Span.ofInts_natCast _ 1) _)
  rw [backspace, if_neg (by omega)] at hback
  have hafter : after =
      (perform { editor with cursor := editor.cursor - 1 } (.replace [editor.cursor - 1, 1] _)).1 :=
    (congrArg Prod.fst hback).symm
  rw [hafter]
  exact ⟨inserted_perform (h.inserted.delete hsettings hoffset hmutation), hcursor⟩

/-- Every backspace takes one character back.  The induction is on the backspaces. -/
theorem Typed.of_handleKeys {backs : List Int} (h : editor.Typed settings offset typed cell)
    (hsettings : settings.Consistent) (hoffset : offset ≤ settings.length)
    (hbacks : ∀ back ∈ backs, back ∈ Action.backspaces) (hlength : backs.length = typed.length)
    {answers : List Bool} (hkeys : editor.handleKeys backs = (after, .ok answers)) :
    after.Typed settings offset [] cell := by
  induction backs generalizing editor typed answers with
  | nil =>
      cases hkeys
      rwa [List.eq_nil_of_length_eq_zero hlength.symm] at h
  | cons back rest ih =>
      obtain ⟨changed, goesOn, later, hkey, hrest⟩ := exists_of_handleKeys_cons hkeys
      obtain rfl | ⟨kept, last, rfl⟩ := List.eq_nil_or_concat' typed
      · cases hlength
      · have haction := Action.ofKey?_of_mem_backspaces (hbacks back List.mem_cons_self)
        have hback : backspace { editor with quitRequested := false } = (changed, none) :=
          act_of_handleKey haction (by decide) hkey
        have hready : Typed settings offset (kept ++ [last]) cell
            { editor with quitRequested := false } := ⟨h.inserted, h.cursor⟩
        rw [List.length_append] at hlength
        exact ih (hready.of_backspace hsettings hoffset hback)
          (fun other hother => hbacks other (List.mem_cons_of_mem _ hother))
          (Nat.succ.inj hlength) hrest

/-- Keys that type and keys that take back do not fail if the observers only take note. -/
theorem exists_handleKeys_of_types (h : editor.Sound) (hnonneg : 0 ≤ editor.cursor)
    (hle : editor.cursor ≤ editor.text.length) {key : Int} {backs : List Int}
    (hkey : Action.Types key) (hbacks : ∀ back ∈ backs, back ∈ Action.backspaces) :
    ∃ after, editor.handleKeys (key :: backs) =
      (after, .ok ((key :: backs).map fun _ => true)) := by
  have hshows : editor.Shows (Grid.ofEditor editor) := ⟨h, hnonneg, hle, rfl⟩
  have hkeys : ∀ other ∈ key :: backs, other ≠ Key.save ∧ other ≠ Key.quit := by
    intro other hother
    rcases List.mem_cons.1 hother with rfl | hother
    · obtain ⟨text, haction, -⟩ := Action.exists_text_of_types hkey
      exact Action.key_ne_of_ofKey? haction (by simp) (by simp)
    · exact Action.key_ne_of_ofKey? (Action.ofKey?_of_mem_backspaces (hbacks other hother))
        (by decide) (by decide)
  obtain ⟨after, hhandled, -⟩ := hshows.exists_handleKeys hkeys
  exact ⟨after, hhandled⟩

/-- A key that types, followed by as many backspaces as it has inserted characters. -/
theorem undone_handleKeys (hfresh : editor.session.buffer.Fresh)
    (hdepth : editor.session.buffer.depth = 0) (hpassive : editor.session.Passive)
    (hnonneg : 0 ≤ editor.cursor) (hle : editor.cursor ≤ editor.text.length) {key : Int}
    {backs : List Int} (hkey : Action.Types key)
    (hbacks : ∀ back ∈ backs, back ∈ Action.backspaces)
    (hlength : backs.length = Action.typedLength key) {answers : List Bool}
    (hkeys : editor.handleKeys (key :: backs) = (after, .ok answers)) :
    after.text = editor.text ∧ after.cursor = editor.cursor ∧
      AlikeRuns after.session.buffer.runs.runs editor.session.buffer.runs.runs := by
  obtain ⟨offset, hcursor⟩ := Int.eq_ofNat_of_zero_le hnonneg
  have hoffset : offset ≤ editor.session.buffer.length := by
    rw [hcursor] at hle
    exact Int.ofNat_le.1 hle
  obtain ⟨changed, goesOn, later, hfirst, hrest⟩ := exists_of_handleKeys_cons hkeys
  obtain ⟨typed, haction, hcount⟩ := Action.exists_text_of_types hkey
  let ready : Editor := { editor with quitRequested := false }
  have hinsert : ready.insertText typed = (changed, none) :=
    act_of_handleKey haction (by simp) hfirst
  have hresting : ready.session.Resting editor.session.buffer editor.session.buffer.text
      editor.session.buffer.runs.cells := ⟨hfresh.consistent.carries, hpassive, hdepth⟩
  have hplace : ready.cursor = offset := hcursor
  have htyped := typed_of_insertText hresting hplace hoffset hinsert
  have hundone := htyped.of_handleKeys hfresh.consistent hoffset hbacks (hlength.trans hcount.symm)
    hrest
  obtain ⟨htext, hruns⟩ := hundone.inserted.undone hfresh
  exact ⟨htext, hundone.cursor.trans (by rw [hcursor]; rfl), hruns⟩

end Editor

namespace Session

/-- Deleting what has just been inserted undoes it.  Right after a pass, outside of
transactions and with observers that only look, plain or styled text is inserted at any
offset and then deleted: the text is restored and the runs are alike to those before.  So
it is in an editor with the cursor in the text, for a key that types and as many backspaces
as it has inserted characters; with observers that only take note these keys do not fail,
and whenever they do not, the cursor is restored as well. -/
theorem alikeRuns_insert_delete {session : Session} (hfresh : session.buffer.Fresh)
    (hdepth : session.buffer.depth = 0) (hpassive : session.Passive) :
    (∀ (offset : Nat) (fragment : Fragment), offset ≤ session.buffer.length →
      let inserted := (session.run (.insert offset fragment)).session
      let deleted := (inserted.run (.delete [offset, fragment.length])).session
      inserted.buffer.text = session.buffer.text.take offset ++ fragment.text ++
          session.buffer.text.drop offset ∧
        deleted.buffer.text = session.buffer.text ∧
        AlikeRuns deleted.buffer.runs.runs session.buffer.runs.runs) ∧
    ∀ editor : Editor, editor.session = session → 0 ≤ editor.cursor →
      editor.cursor ≤ editor.text.length →
      ∀ (key : Int) (backs : List Int), Action.Types key →
        (∀ back ∈ backs, back ∈ Action.backspaces) → backs.length = Action.typedLength key →
        (session.Silent → ∃ after, editor.handleKeys (key :: backs) =
          (after, .ok ((key :: backs).map fun _ => true))) ∧
        ∀ after answers, editor.handleKeys (key :: backs) = (after, .ok answers) →
          after.text = editor.text ∧ after.cursor = editor.cursor ∧
            AlikeRuns after.session.buffer.runs.runs session.buffer.runs.runs := by
  constructor
  · intro offset fragment hoffset
    exact undone_insert_delete hfresh hdepth hpassive hoffset fragment
  · rintro editor rfl hnonneg hle key backs hkey hbacks hlength
    constructor
    · intro hsilent
      exact Editor.exists_handleKeys_of_types ⟨hfresh.consistent, hsilent⟩ hnonneg hle hkey hbacks
    · intro after answers hkeys
      exact Editor.undone_handleKeys hfresh hdepth hpassive hnonneg hle hkey hbacks hlength hkeys

/-- A tab before a tag, taken back with four backspaces. -/
theorem alikeRuns_insert_delete_tab :
    ∃ colored spans editor after, quotedTag.buffer.colorize = .ok (colored, spans) ∧
      Editor.start (new colored) none ⟨24, 80, 8, 64, .console, []⟩ .empty 0 = .ok editor ∧
      editor.handleKeys [9, Key.backspace, 127, 127, 8] =
        (after, .ok [true, true, true, true, true]) ∧
      after.text = colored.text ∧ after.cursor = 0 ∧
      AlikeRuns after.session.buffer.runs.runs colored.runs.runs := by
  have hreached : Reached (new (Buffer.new hiddenFont .standard)) quotedTag :=
    reached_runAll .start _
  have hconsistent : quotedTag.buffer.Consistent :=
    keptByBuffers_consistent.reached hreached (Buffer.consistent_new hiddenFont .standard)
  have hdepth : quotedTag.buffer.depth = 0 := by decide +kernel
  obtain ⟨runs, hpass, -⟩ := Buffer.exists_passed hconsistent
  generalize quotedTag.buffer = buffer at *
  let colored : Buffer := { buffer with runs := runs }
  obtain ⟨editor, hstart⟩ : ∃ editor, Editor.start (new colored) none ⟨24, 80, 8, 64, .console, []⟩
      .empty 0 = .ok editor := ⟨_, rfl⟩
  obtain ⟨hsession, hcursor, -⟩ := Editor.fields_of_start hstart
  have hfresh : editor.session.buffer.Fresh := by
    rw [hsession]
    exact ⟨colored, ⟨buffer, _, hconsistent, hpass⟩, ⟨⟨rfl, rfl, rfl, rfl⟩, rfl⟩⟩
  have hsilent : editor.session.Silent := by
    rw [hsession]
    exact silent_new colored
  have hclosed : editor.session.buffer.depth = 0 := by
    rw [hsession]
    exact hdepth
  have hle : editor.cursor ≤ editor.text.length := by
    rw [hcursor]
    exact Int.natCast_nonneg _
  obtain ⟨hhandled, hundone⟩ := (alikeRuns_insert_delete hfresh hclosed hsilent.passive).2
    editor rfl (Int.le_of_eq hcursor.symm) hle 9 [Key.backspace, 127, 127, 8] (.inr (by decide))
    (by decide) (by decide)
  obtain ⟨after, hafter⟩ := hhandled hsilent
  obtain ⟨htext, hkept, hruns⟩ := hundone after _ hafter
  refine ⟨colored, _, editor, after, hpass, hstart, hafter, htext.trans ?_,
    hkept.trans hcursor, ?_⟩
  · rw [Editor.text, hsession]
    rfl
  · rw [hsession] at hruns
    exact hruns

end Session

end MarkupEditor
