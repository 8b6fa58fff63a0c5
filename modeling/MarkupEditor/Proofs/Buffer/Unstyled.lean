import MarkupEditor.Proofs.Buffer.Beneath

/-!
# Text without attributes of its own

Plain text has no attributes but the two that passes give it.  What a pass leaves
of such a text depends on nothing but the text and the settings: the attribute
sets it stores are the same ones, and not only alike.
-/

namespace MarkupEditor

open RunList

namespace AttributeSet

/-- What a pass gives to a character that has no other attributes. -/
def ofPass (font : Value) (color : Option Value) : AttributeSet :=
  ((∅ : AttributeSet).insert fontName font).assign colorName color

/-- An attribute set that no more than passes have touched. -/
def Unstyled (attributes : AttributeSet) : Prop :=
  attributes = ∅ ∨ ∃ font color, attributes = ofPass font color

variable {attributes : AttributeSet}

/-- A pass leaves nothing of an earlier one, not even in the order of the names. -/
theorem Unstyled.pass (h : attributes.Unstyled) (font : Value) (color : Option Value) :
    (attributes.insert fontName font).assign colorName color = ofPass font color := by
  rcases h with rfl | ⟨font', color', rfl⟩
  · rfl
  · cases color' <;> cases color <;> rfl

theorem Unstyled.beneath (h : attributes.Unstyled) : attributes.AlikeBeneath ∅ := by
  rcases h with rfl | ⟨font, color, rfl⟩
  · exact .refl ∅
  · exact alikeBeneath_pass ∅ font color

end AttributeSet

def Fragment.IsPlain : Fragment → Prop
  | plain _ => True
  | styled _ _ => False

/-- A mutation that brings no attributes. -/
def Mutation.Unstyled : Mutation → Prop
  | replaceCharacters _ fragment => fragment.IsPlain
  | setAttributes _ _ => False
  | recolorize => True

/-- Plain text has attributes that were there already, or none. -/
theorem Mutation.Unstyled.keeps {mutation : Mutation} (h : mutation.Unstyled)
    (Holds : AttributeSet → Prop) (hempty : Holds ∅) {cells : List AttributeSet}
    (hcells : ∀ cell ∈ cells, Holds cell) : ∀ cell ∈ mutation.onCells cells, Holds cell := by
  intro cell hcell
  cases mutation with
  | replaceCharacters span fragment =>
      rw [Mutation.onCells, Operation.onSpan, List.mem_append, List.mem_append] at hcell
      rcases hcell with (hbefore | hinside) | hbehind
      · exact hcells cell (List.mem_of_mem_take hbefore)
      · rw [List.eq_of_mem_replicate hinside]
        cases fragment with
        | plain text =>
            rw [carriedCell, inheritedCell]
            generalize (if span.length ≠ 0 then span.start else span.start - 1) = offset
            cases hfound : cells[offset]? with
            | none => exact hempty
            | some inherited => exact hcells inherited (List.mem_of_getElem? hfound)
        | styled text attributes => exact h.elim
      · exact hcells cell (List.mem_of_mem_drop hbehind)
  | setAttributes span attributes => exact h.elim
  | recolorize => exact hcells cell hcell

namespace Buffer

variable {buffer other : Buffer}

/-- A buffer that has been given no attributes. -/
def Unstyled (buffer : Buffer) : Prop := ∀ cell ∈ buffer.runs.cells, cell.Unstyled

/-- A buffer whose runs are those of a pass over unstyled text with the present
settings. -/
structure UpToDate (buffer : Buffer) : Prop where
  colored : buffer.Colored
  stored : ∀ cell ∈ buffer.runs.cells, ∃ layer : Option Layer,
    cell = .ofPass buffer.font (layer.map buffer.colorValue)

theorem Mutated.unstyled {mutation : Mutation} {edited : Buffer}
    (hedited : buffer.Mutated mutation edited) (hmutation : mutation.Unstyled)
    (h : buffer.Unstyled) : edited.Unstyled := by
  intro cell hcell
  exact hmutation.keeps _ (.inl rfl) h cell (hedited.stored hcell)

theorem SameSettings.colorValue_eq (h : buffer.SameSettings other) :
    buffer.colorValue = other.colorValue := by
  funext layer
  rw [colorValue, colorValue, h.palette]

theorem Passed.upToDate (hconsistent : buffer.Consistent) (h : buffer.Unstyled)
    {after : Buffer} (hpassed : buffer.Passed after.runs)
    (hsettings : buffer.SameSettings after) : after.UpToDate where
  colored := hpassed.colored hconsistent hsettings
  stored := by
    intro cell hcell
    obtain ⟨before, hbefore, offset, rfl⟩ := hpassed.stored cell hcell
    refine ⟨buffer.roles.layerAt? buffer.text offset, ?_⟩
    rw [(h before hbefore).pass, colorAt?, hsettings.font, hsettings.colorValue_eq]

theorem UpToDate.unstyled (h : buffer.UpToDate) : buffer.Unstyled := by
  intro cell hcell
  obtain ⟨layer, hlayer⟩ := h.stored cell hcell
  exact .inr ⟨_, _, hlayer⟩

theorem beneathCells_of_unstyled {cells cells' : List AttributeSet}
    (hlength : cells.length = cells'.length) (h : ∀ cell ∈ cells, cell.Unstyled)
    (h' : ∀ cell ∈ cells', cell.Unstyled) : BeneathCells cells cells' := by
  induction cells generalizing cells' with
  | nil =>
      rw [List.eq_nil_of_length_eq_zero hlength.symm]
      exact .nil
  | cons cell rest ih =>
      cases cells' with
      | nil => cases hlength
      | cons cell' rest' =>
          have hcell := (h cell (List.mem_cons_self ..)).beneath
          have hcell' := (h' cell' (List.mem_cons_self ..)).beneath
          apply List.Forall₂.cons (hcell.trans hcell'.symm)
          exact ih (Nat.succ.inj hlength)
            (fun other hother => h other (List.mem_cons_of_mem _ hother))
            (fun other hother => h' other (List.mem_cons_of_mem _ hother))

/-- The text and the settings determine the runs. -/
theorem UpToDate.runs_eq (hconsistent : buffer.Consistent) (hconsistent' : other.Consistent)
    (h : buffer.UpToDate) (h' : other.UpToDate) (hsettings : buffer.SameSettings other) :
    buffer.runs = other.runs := by
  have hlength : buffer.runs.cells.length = other.runs.cells.length := by
    rw [hconsistent.length_cells, hconsistent'.length_cells, length, length, hsettings.text]
  have hcells := beneathCells_of_unstyled hlength h.unstyled h'.unstyled
  have halike := h.colored.alikeRuns h'.colored hsettings hcells
  apply hconsistent.canonical.toWellFormed.eq_of_runs_eq hconsistent'.canonical.toWellFormed
  apply halike.eq
  intro run hrun run' hrun' hsame
  have hattributes := hsame.attributes
  obtain ⟨layer, hlayer⟩ :=
    h.stored _ (attributes_mem_cells hconsistent.canonical.toWellFormed hrun)
  obtain ⟨layer', hlayer'⟩ :=
    h'.stored _ (attributes_mem_cells hconsistent'.canonical.toWellFormed hrun')
  rw [← hsettings.font, ← hsettings.colorValue_eq] at hlayer'
  rw [hlayer, hlayer'] at hattributes ⊢
  have hcolor := hattributes colorName
  rw [AttributeSet.ofPass, AttributeSet.ofPass, AttributeSet.get?_assign, if_pos rfl,
    AttributeSet.get?_assign, if_pos rfl] at hcolor
  rw [map_colorValue_eq hcolor]

end Buffer

end MarkupEditor
