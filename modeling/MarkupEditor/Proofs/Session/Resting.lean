import MarkupEditor.Proofs.Buffer.Beneath
import MarkupEditor.Proofs.Session.Passive
import MarkupEditor.Proofs.Session.Reached
import MarkupEditor.Proofs.Session.Silent

/-!
# Sessions that rest

A session rests when no transaction is open and its observers only look.  What is known of
its buffer is the text and, but for the font and the color, the attribute sets of the
characters.  An edit does to them what its mutation says, and leaves a session that rests
again, with the runs of a pass.  So two sessions that rest with the same text, attribute
sets and settings, each after an edit of its own, have the same runs.
-/

namespace MarkupEditor

open RunList

namespace Buffer

/-- A buffer that has the settings of another one, holds a text and has, beneath the passes,
the attribute sets of its characters. -/
structure Carries (settings : Buffer) (chars : List Char) (cells : List AttributeSet)
    (buffer : Buffer) : Prop where
  consistent : buffer.Consistent
  text : buffer.text = chars
  cells : BeneathCells buffer.runs.cells cells
  font : buffer.font = settings.font
  palette : buffer.palette = settings.palette
  roles : buffer.roles = settings.roles

variable {settings buffer edited other : Buffer} {chars : List Char} {cells : List AttributeSet}

theorem Consistent.carries (h : buffer.Consistent) :
    Carries buffer buffer.text buffer.runs.cells buffer :=
  ⟨h, rfl, (AlikeCells.refl _).beneath, rfl, rfl, rfl⟩

/-- The depth, what is pending and who observes are left open. -/
theorem Carries.reframe (h : settings.Carries chars cells buffer) (depth : Nat)
    (pending : Pending) (observers : List Observer) :
    settings.Carries chars cells
      { buffer with depth := depth, pending := pending, observers := observers } :=
  ⟨⟨h.consistent.canonical, h.consistent.length⟩, h.text, h.cells, h.font, h.palette, h.roles⟩

theorem Carries.mutated (h : settings.Carries chars cells buffer) {mutation : Mutation}
    (hedited : buffer.Mutated mutation edited) :
    settings.Carries (mutation.onText chars) (mutation.onCells cells) edited where
  consistent := hedited.consistent
  text := by rw [hedited.text, h.text]
  cells := hedited.runs.alike.beneath.trans (mutation.beneathCells_onCells h.cells)
  font := by
    rw [hedited.frame]
    exact h.font
  palette := by
    rw [hedited.frame]
    exact h.palette
  roles := by
    rw [hedited.frame]
    exact h.roles

theorem Passed.consistent (h : buffer.Consistent) {runs : RunList} (hpassed : buffer.Passed runs) :
    Consistent { buffer with runs := runs } where
  canonical := hpassed.represents.canonical
  length := by
    rw [← hpassed.represents.length_eq, (beneathCells_passCells h).length_eq, h.length_cells]
    rfl

/-- A pass leaves what lies beneath it. -/
theorem Carries.passed (h : settings.Carries chars cells buffer) {runs : RunList}
    (hpassed : buffer.Passed runs) :
    settings.Carries chars cells { buffer with runs := runs } ∧
      Colored { buffer with runs := runs } := by
  have hcells : BeneathCells runs.cells cells := (hpassed.beneathCells h.consistent).trans h.cells
  constructor
  · exact ⟨hpassed.consistent h.consistent, h.text, hcells, h.font, h.palette, h.roles⟩
  · exact hpassed.colored h.consistent ⟨rfl, rfl, rfl, rfl⟩

/-- What is carried determines the runs that a pass leaves. -/
theorem Carries.alikeRuns (h : settings.Carries chars cells buffer)
    (h' : settings.Carries chars cells other) (hcolored : buffer.Colored)
    (hcolored' : other.Colored) : AlikeRuns buffer.runs.runs other.runs.runs := by
  have hsettings : buffer.SameSettings other :=
    ⟨h.text.trans h'.text.symm, h.font.trans h'.font.symm, h.palette.trans h'.palette.symm,
      h.roles.trans h'.roles.symm⟩
  exact hcolored.alikeRuns hcolored' hsettings (h.cells.trans h'.cells.symm)

end Buffer

namespace Session

/-- A session in which nobody edits, with what is known of its buffer. -/
structure Resting (settings : Buffer) (chars : List Char) (cells : List AttributeSet)
    (session : Session) : Prop where
  carries : settings.Carries chars cells session.buffer
  passive : session.Passive
  depth : session.buffer.depth = 0

/-- A session that rests after a pass, with nothing pending. -/
structure Rested (settings : Buffer) (chars : List Char) (cells : List AttributeSet)
    (session : Session) : Prop extends Resting settings chars cells session where
  colored : session.buffer.Colored
  pending : session.buffer.pending = .none

variable {settings : Buffer} {chars : List Char} {cells : List AttributeSet} {session : Session}

theorem Silent.passive (h : session.Silent) : session.Passive := by
  intro known hknown
  rw [h known hknown]
  trivial

/-- The end of the outermost transaction. -/
theorem rested_settle (bound : Nat) {edited : Buffer} (h : settings.Carries chars cells edited)
    (hdepth : edited.depth = 1) (hmask : edited.pending.mask ≠ 0) (hpassive : session.Passive) :
    let settled := (session.settle (reactWithin bound) edited.endEditing).1
    settled.Rested settings chars cells ∧
      events settled.journal = edited.pending.event :: events session.journal := by
  intro settled
  obtain ⟨runs, observers, hpassed, hbuffer, hevents, hsettled⟩ :=
    exists_settle_outermost bound h.consistent hdepth hmask hpassive
  obtain ⟨hcarries, hcolored⟩ := h.passed hpassed
  refine ⟨⟨⟨?_, hsettled, ?_⟩, ?_, ?_⟩, hevents⟩
  · exact hbuffer ▸ hcarries.reframe 0 .none observers
  · rw [hbuffer]
  · rw [hbuffer]
    exact hcolored
  · rw [hbuffer]

/-- An edit of a session that rests. -/
theorem Resting.execute (h : session.Resting settings chars cells) (bound : Nat)
    {command : Command} {mutation : Mutation}
    (hmutation : command.mutation? chars.length = some (.ok mutation))
    (hfits : mutation.Fits chars.length) :
    (execute (reactWithin bound) command session).session.Rested settings
      (mutation.onText chars) (mutation.onCells cells) := by
  have hlength : session.buffer.length = chars.length := congrArg List.length h.carries.text
  rw [← hlength] at hmutation hfits
  obtain ⟨edited, hedited, hexecute⟩ :=
    exists_execute_settled (reactWithin bound) h.carries.consistent hmutation hfits
  have hopened : edited.depth = 1 := by rw [hedited.frame, h.depth]
  rw [hexecute, session_ofEdit]
  exact (rested_settle bound (h.carries.mutated hedited) hopened hedited.mask_ne_zero
    h.passive).1

theorem Resting.run (h : session.Resting settings chars cells) {command : Command}
    {mutation : Mutation} (hmutation : command.mutation? chars.length = some (.ok mutation))
    (hfits : mutation.Fits chars.length) :
    (session.run command).session.Rested settings (mutation.onText chars)
      (mutation.onCells cells) :=
  h.execute _ hmutation hfits

end Session

end MarkupEditor
