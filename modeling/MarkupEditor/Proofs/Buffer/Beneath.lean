import MarkupEditor.Proofs.Buffer.Mutation

/-!
# Attributes beneath a pass

A pass sets two attributes of every character anew, and edits take attribute sets
along as they find them.  So buffers that differ in nothing but those two
attributes stay so under the same edits, and a pass makes them alike: it does not
matter which passes have gone before.
-/

namespace MarkupEditor

/-- Attribute sets that differ in the font and the color at most. -/
def AttributeSet.AlikeBeneath (left right : AttributeSet) : Prop :=
  ∀ name, name ≠ fontName → name ≠ colorName →
    Value.AlikeOption (left.get? name) (right.get? name)

namespace AttributeSet

theorem AlikeBeneath.refl (attributes : AttributeSet) : attributes.AlikeBeneath attributes :=
  fun _ _ _ => rfl

theorem AlikeBeneath.symm {left right : AttributeSet} (h : left.AlikeBeneath right) :
    right.AlikeBeneath left :=
  fun name hfont hcolor => (h name hfont hcolor).symm

theorem AlikeBeneath.trans {first second third : AttributeSet} (h : first.AlikeBeneath second)
    (h' : second.AlikeBeneath third) : first.AlikeBeneath third :=
  fun name hfont hcolor => (h name hfont hcolor).trans (h' name hfont hcolor)

theorem Alike.beneath {left right : AttributeSet} (h : left.Alike right) :
    left.AlikeBeneath right :=
  fun name _ _ => h name

theorem alikeBeneath_pass (attributes : AttributeSet) (font : Value) (color : Option Value) :
    ((attributes.insert fontName font).assign colorName color).AlikeBeneath attributes := by
  intro name hfont hcolor
  rw [get?_assign, if_neg hcolor, get?_insert, if_neg hfont]
  rfl

/-- A pass makes alike what was alike beneath it. -/
theorem AlikeBeneath.pass {left right : AttributeSet} (h : left.AlikeBeneath right)
    (font : Value) (color : Option Value) :
    ((left.insert fontName font).assign colorName color).Alike
      ((right.insert fontName font).assign colorName color) := by
  intro name
  rw [get?_assign, get?_assign, get?_insert, get?_insert]
  by_cases hcolor : name = colorName
  · rw [if_pos hcolor, if_pos hcolor]
    rfl
  · rw [if_neg hcolor, if_neg hcolor]
    by_cases hfont : name = fontName
    · rw [if_pos hfont, if_pos hfont]
      rfl
    · rw [if_neg hfont, if_neg hfont]
      exact h name hfont hcolor

end AttributeSet

namespace RunList

/-- Lists of attribute sets that are alike beneath a pass, character by character. -/
abbrev BeneathCells : List AttributeSet → List AttributeSet → Prop :=
  List.Forall₂ AttributeSet.AlikeBeneath

theorem BeneathCells.symm {left right : List AttributeSet} (h : BeneathCells left right) :
    BeneathCells right left :=
  (List.Forall₂.imp (fun _ _ => AttributeSet.AlikeBeneath.symm) h).flip

theorem BeneathCells.trans {first second third : List AttributeSet}
    (h : BeneathCells first second) (h' : BeneathCells second third) :
    BeneathCells first third := by
  induction h generalizing third with
  | nil => exact h'
  | cons halike hrest ih =>
      cases h' with
      | cons halike' hrest' => exact .cons (halike.trans halike') (ih hrest')

theorem AlikeCells.beneath {left right : List AttributeSet} (h : AlikeCells left right) :
    BeneathCells left right :=
  List.Forall₂.imp (fun _ _ => AttributeSet.Alike.beneath) h

theorem BeneathCells.getD {left right : List AttributeSet} (h : BeneathCells left right)
    (index : Nat) : (left[index]?.getD ∅).AlikeBeneath (right[index]?.getD ∅) := by
  induction h generalizing index with
  | nil => exact .refl ∅
  | cons halike _ ih =>
      cases index with
      | zero => exact halike
      | succ index => exact ih index

theorem beneathCells_replicate {left right : AttributeSet} (h : left.AlikeBeneath right)
    (count : Nat) : BeneathCells (List.replicate count left) (List.replicate count right) := by
  induction count with
  | zero => exact .nil
  | succ count ih => exact .cons h ih

theorem BeneathCells.onSpan {left right : List AttributeSet} (h : BeneathCells left right)
    (span : Span) {onPart onPart' : List AttributeSet → List AttributeSet}
    (hpart : ∀ {part part'}, BeneathCells part part' → BeneathCells (onPart part) (onPart' part')) :
    BeneathCells (Operation.onSpan left span onPart) (Operation.onSpan right span onPart') := by
  have hbefore := List.forall₂_take span.start h
  have hinside := hpart (List.forall₂_take span.length (List.forall₂_drop span.start h))
  have hbehind := List.forall₂_drop span.stop h
  exact List.rel_append (List.rel_append hbefore hinside) hbehind

/-! ### A pass over cells -/

theorem beneathCells_pass (font : Value) {cells : List AttributeSet}
    {colors : List (Option Value)} (hcolors : colors.length = cells.length) :
    BeneathCells (shownOver colorName (cells.map (·.insert fontName font)) colors) cells := by
  induction cells generalizing colors with
  | nil => exact .nil
  | cons cell rest ih =>
      cases colors with
      | nil => cases hcolors
      | cons color colors =>
          exact .cons (cell.alikeBeneath_pass font color) (ih (Nat.succ.inj hcolors))

theorem BeneathCells.pass {left right : List AttributeSet} (h : BeneathCells left right)
    (font : Value) (colors : List (Option Value)) :
    AlikeCells (shownOver colorName (left.map (·.insert fontName font)) colors)
      (shownOver colorName (right.map (·.insert fontName font)) colors) := by
  induction h generalizing colors with
  | nil => exact .nil
  | cons halike _ ih =>
      cases colors with
      | nil => exact .nil
      | cons color colors => exact .cons (halike.pass font color) (ih colors)

end RunList

open RunList

/-- An edit takes along what differs in the two attributes only; what text
inherits differs in no more than where it is inherited from. -/
theorem Mutation.beneathCells_onCells (mutation : Mutation) {left right : List AttributeSet}
    (h : BeneathCells left right) :
    BeneathCells (mutation.onCells left) (mutation.onCells right) := by
  cases mutation with
  | replaceCharacters span fragment =>
      rw [onCells, onCells]
      apply h.onSpan span
      intro _ _ _
      apply beneathCells_replicate
      cases fragment with
      | plain text => exact h.getD _
      | styled text attributes => exact .refl attributes
  | setAttributes span attributes =>
      rw [onCells, onCells]
      apply h.onSpan span
      intro part part' hpart
      exact List.rel_map (fun _ _ _ => .refl attributes) hpart
  | recolorize => exact h

namespace Buffer

variable {buffer other : Buffer}

/-- Buffers that a pass finds in the same text and with the same settings. -/
structure SameSettings (buffer other : Buffer) : Prop where
  text : buffer.text = other.text
  font : buffer.font = other.font
  palette : buffer.palette = other.palette
  roles : buffer.roles = other.roles

theorem SameSettings.symm (h : buffer.SameSettings other) : other.SameSettings buffer :=
  ⟨h.text.symm, h.font.symm, h.palette.symm, h.roles.symm⟩

theorem SameSettings.mutated (h : buffer.SameSettings other) {mutation : Mutation}
    {edited edited' : Buffer} (hedited : buffer.Mutated mutation edited)
    (hedited' : other.Mutated mutation edited') : edited.SameSettings edited' where
  text := by rw [hedited.text, hedited'.text, h.text]
  font := by
    rw [hedited.frame, hedited'.frame]
    exact h.font
  palette := by
    rw [hedited.frame, hedited'.frame]
    exact h.palette
  roles := by
    rw [hedited.frame, hedited'.frame]
    exact h.roles

theorem SameSettings.colors_eq (h : buffer.SameSettings other) :
    buffer.colors (buffer.roles.classify buffer.text) =
      other.colors (other.roles.classify other.text) := by
  simp only [colors, colorValue, length, h.text, h.palette, h.roles]

/-- Cells that are alike beneath a pass are alike after it. -/
theorem SameSettings.alikeCells_passCells (h : buffer.SameSettings other)
    (hcells : BeneathCells buffer.runs.cells other.runs.cells) :
    AlikeCells buffer.passCells other.passCells := by
  rw [passCells, passCells, h.colors_eq, h.font]
  exact hcells.pass _ _

theorem beneathCells_passCells (h : buffer.Consistent) :
    BeneathCells buffer.passCells buffer.runs.cells := by
  apply beneathCells_pass
  rw [length_colors, h.length_cells]

/-- A buffer whose runs are what a pass would leave anyway. -/
def Colored (buffer : Buffer) : Prop := buffer.runs.Represents buffer.passCells

theorem Passed.beneathCells (h : buffer.Consistent) {runs : RunList}
    (hpassed : buffer.Passed runs) : BeneathCells runs.cells buffer.runs.cells :=
  hpassed.represents.alike.beneath.trans (beneathCells_passCells h)

/-- After a pass another one would change nothing. -/
theorem Passed.colored (h : buffer.Consistent) {after : Buffer}
    (hpassed : buffer.Passed after.runs) (hsettings : buffer.SameSettings after) :
    after.Colored where
  canonical := hpassed.represents.canonical
  alike := hpassed.represents.alike.trans
    (hsettings.alikeCells_passCells (hpassed.beneathCells h).symm)

/-- Colored buffers that are alike beneath the pass have the same runs. -/
theorem Colored.alikeRuns (h : buffer.Colored) (h' : other.Colored)
    (hsettings : buffer.SameSettings other)
    (hcells : BeneathCells buffer.runs.cells other.runs.cells) :
    AlikeRuns buffer.runs.runs other.runs.runs := by
  have halike : AlikeCells buffer.runs.cells other.passCells :=
    h.alike.trans (hsettings.alikeCells_passCells hcells)
  exact Represents.alikeRuns ⟨h.canonical, halike⟩ h'

end Buffer

end MarkupEditor
