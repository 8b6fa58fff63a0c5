import MarkupEditor.Proofs.Session.Repeated
import MarkupEditor.Proofs.Session.Resting
import MarkupEditor.Proofs.Session.Separate

/-!
# Insertions that are undone

Characters that are inserted and then deleted again leave the text as it was, and beneath
the passes the attribute sets as they were.  If the buffer was fresh from a pass before,
the pass at the end brings its runs back, however the inserted characters have changed the
markup meanwhile.
-/

namespace MarkupEditor

open RunList

namespace Buffer

variable {buffer after : Buffer}

theorem SameStyling.passCells_eq (h : buffer.SameStyling after) :
    after.passCells = buffer.passCells := by
  simp only [passCells, colors, colorValue, length, h.text, h.runs, h.font, h.palette, h.roles]

theorem Colored.of_sameStyling (h : buffer.Colored) (hsame : buffer.SameStyling after) :
    after.Colored := by
  rw [Colored, hsame.runs, hsame.passCells_eq]
  exact h

theorem LeftByPass.colored (h : after.LeftByPass) : after.Colored := by
  obtain ⟨before, spans, hbefore, hpass⟩ := h
  obtain ⟨runs, hfound, hpassed⟩ := exists_passed hbefore
  cases hfound.symm.trans hpass
  exact hpassed.colored hbefore ⟨rfl, rfl, rfl, rfl⟩

/-- A buffer that holds the styled text that a pass has left, with the settings of that
pass. -/
def Fresh (buffer : Buffer) : Prop :=
  ∃ passed : Buffer, passed.LeftByPass ∧ passed.SameStyling buffer

theorem Fresh.consistent (h : buffer.Fresh) : buffer.Consistent := by
  obtain ⟨passed, hpassed, hsame⟩ := h
  exact hpassed.highlighted.1.of_sameColors hsame.toSameColors

theorem Fresh.colored (h : buffer.Fresh) : buffer.Colored := by
  obtain ⟨passed, hpassed, hsame⟩ := h
  exact hpassed.colored.of_sameStyling hsame

end Buffer

/-! ### Insertions and deletions -/

namespace Span

/-- Of what has been put in at an offset, the end is deleted. -/
theorem replaced_replaced_inserted {α : Type} {items : List α} {offset : Nat}
    (h : offset ≤ items.length) (kept gone : List α) :
    (Span.mk (offset + kept.length) gone.length).replaced []
        ((Span.mk offset 0).replaced (kept ++ gone) items) =
      (Span.mk offset 0).replaced kept items := by
  have hbefore : (items.take offset ++ kept).length = offset + kept.length := by
    rw [List.length_append, List.length_take_of_le h]
  have hbehind : (items.take offset ++ kept ++ gone).length =
      offset + kept.length + gone.length := by
    rw [List.length_append, hbefore]
  simp only [replaced, stop, Nat.add_zero, ← List.append_assoc, List.append_nil]
  rw [← hbehind, List.drop_left, List.append_assoc (items.take offset ++ kept), ← hbefore,
    List.take_left]

theorem replaced_nil {α : Type} (items : List α) (offset : Nat) :
    (Span.mk offset 0).replaced [] items = items := by
  simp only [replaced, stop, Nat.add_zero, List.append_nil, List.take_append_drop]

end Span

namespace Session

/-- A session that rests after some characters have been inserted at an offset, all with
one attribute set. -/
abbrev Inserted (settings : Buffer) (offset : Nat) (typed : List Char) (cell : AttributeSet)
    (session : Session) : Prop :=
  session.Rested settings ((Span.mk offset 0).replaced typed settings.text)
    ((Span.mk offset 0).replaced (List.replicate typed.length cell) settings.runs.cells)

variable {settings : Buffer} {session : Session} {offset : Nat} {cell : AttributeSet}
  {command : Command}

theorem Resting.insert (h : session.Resting settings settings.text settings.runs.cells)
    (hoffset : offset ≤ settings.length) {fragment : Fragment}
    (hmutation : ∀ length,
      command.mutation? length = some (.ok (.replaceCharacters ⟨offset, 0⟩ fragment))) :
    (session.run command).session.Inserted settings offset fragment.text
      (carriedCell settings.runs.cells ⟨offset, 0⟩ fragment) := by
  have hrested := h.run (hmutation _) hoffset
  simp only [Mutation.onText, Text.replaceSpan_eq] at hrested
  exact hrested

/-- What has been inserted is deleted from its end on. -/
theorem Inserted.delete {kept gone : List Char}
    (h : session.Inserted settings offset (kept ++ gone) cell) (hsettings : settings.Consistent)
    (hoffset : offset ≤ settings.length)
    (hmutation : ∀ length, command.mutation? length =
      some (.ok (.replaceCharacters ⟨offset + kept.length, gone.length⟩ (.plain [])))) :
    (session.run command).session.Inserted settings offset kept cell := by
  have hplace : (Span.mk offset 0).stop ≤ settings.text.length := hoffset
  have hcells : offset ≤ settings.runs.cells.length := hsettings.length_cells ▸ hoffset
  have hfits : (Span.mk (offset + kept.length) gone.length).stop ≤
      ((Span.mk offset 0).replaced (kept ++ gone) settings.text).length := by
    rw [Span.length_replaced hplace, List.length_append]
    simp only [Span.stop]
    omega
  have hrested := h.toResting.run (hmutation _) hfits
  have htext := Span.replaced_replaced_inserted hoffset kept gone
  have hparts := Span.replaced_replaced_inserted hcells (List.replicate kept.length cell)
    (List.replicate gone.length cell)
  rw [List.replicate_append_replicate, ← List.length_append, List.length_replicate,
    List.length_replicate] at hparts
  rw [Mutation.onText, Text.replaceSpan_eq] at hrested
  change Rested _ ((Span.mk (offset + kept.length) gone.length).replaced [] _)
    ((Span.mk (offset + kept.length) gone.length).replaced [] _) _ at hrested
  rw [htext, hparts] at hrested
  exact hrested

/-- With nothing left of what has been inserted, a fresh buffer is as it was. -/
theorem Inserted.undone (h : session.Inserted settings offset [] cell) (hfresh : settings.Fresh) :
    session.buffer.text = settings.text ∧
      AlikeRuns session.buffer.runs.runs settings.runs.runs := by
  have hcarries := h.carries
  rw [Span.replaced_nil] at hcarries
  have hcells : settings.Carries settings.text settings.runs.cells session.buffer := by
    have hnone := Span.replaced_nil settings.runs.cells offset
    exact hnone ▸ hcarries
  exact ⟨hcells.text, hcells.alikeRuns hfresh.consistent.carries h.colored hfresh.colored⟩

/-- An insertion into a fresh buffer, and the deletion of what it has inserted. -/
theorem undone_insert_delete (hfresh : session.buffer.Fresh) (hdepth : session.buffer.depth = 0)
    (hpassive : session.Passive) (hoffset : offset ≤ session.buffer.length)
    (fragment : Fragment) :
    let inserted := (session.run (.insert offset fragment)).session
    let deleted := (inserted.run (.delete [offset, fragment.length])).session
    inserted.buffer.text = session.buffer.text.take offset ++ fragment.text ++
        session.buffer.text.drop offset ∧
      deleted.buffer.text = session.buffer.text ∧
      AlikeRuns deleted.buffer.runs.runs session.buffer.runs.runs := by
  intro inserted deleted
  have hresting : session.Resting session.buffer session.buffer.text session.buffer.runs.cells :=
    ⟨hfresh.consistent.carries, hpassive, hdepth⟩
  have hinsert (length : Nat) : Command.mutation? length (.insert offset fragment) =
      some (.ok (.replaceCharacters ⟨offset, 0⟩ fragment)) :=
    congrArg some (bind_eq_of_eq_ok (Span.ofInts_natCast offset 0) _)
  have hdelete (length : Nat) : Command.mutation? length (.delete [offset, fragment.length]) =
      some (.ok (.replaceCharacters ⟨offset, fragment.length⟩ (.plain []))) :=
    congrArg some (bind_eq_of_eq_ok (Span.ofInts_natCast offset fragment.length) _)
  have hinserted : inserted.Inserted session.buffer offset ([] ++ fragment.text) _ :=
    hresting.insert hoffset hinsert
  have hdeleted : deleted.Inserted session.buffer offset [] _ :=
    hinserted.delete hfresh.consistent hoffset hdelete
  exact ⟨hinserted.carries.text, hdeleted.undone hfresh⟩

end Session

end MarkupEditor
