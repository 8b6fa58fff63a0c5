import MarkupEditor.Proofs.Buffer.LayeredPass
import MarkupEditor.Proofs.Markup.Precedence
import MarkupEditor.Proofs.Runs.Stored
import MarkupEditor.Proofs.Session.Reached

/-!
# What a pass gives to a character

After a pass every character has the font of the buffer and the color of the
layer on top at its offset, or no color where there is no markup.  Both are
stored as they are; all other attributes stay what they were, up to alikeness.
-/

namespace MarkupEditor

theorem Value.alike_text_iff {left right : String} :
    Value.Alike (.text left) (.text right) ↔ left = right := by
  simp [Alike, signature]

/-- Texts that are alike, or both absent, are the same. -/
theorem Value.map_text_eq {α : Type} (text : α → String) {left right : Option α}
    (h : AlikeOption (left.map fun key => .text (text key))
      (right.map fun key => .text (text key))) :
    left.map (fun key => Value.text (text key)) = right.map fun key => Value.text (text key) := by
  cases left with
  | none =>
      cases right with
      | none => rfl
      | some key' => cases h
  | some key =>
      cases right with
      | none => cases h
      | some key' =>
          have halike : Alike (.text (text key)) (.text (text key')) := Option.some.inj h
          exact congrArg (fun text => some (Value.text text)) (alike_text_iff.1 halike)

namespace Buffer

open RunList

variable {buffer colored : Buffer}

/-- The color of a character, if any, as an attribute value. -/
def colorAt? (buffer : Buffer) (offset : Nat) : Option Value :=
  (buffer.roles.layerAt? buffer.text offset).map buffer.colorValue

theorem getElem?_colors (buffer : Buffer) {offset : Nat} (h : offset < buffer.length) :
    (buffer.colors (buffer.roles.classify buffer.text))[offset]? =
      some (buffer.colorAt? offset) := by
  rw [colors, getElem?_showing h, topmost_map, Roles.topmost_classify, colorAt?]
  rw [List.forall_mem_map]
  exact fun _ => Roles.stop_le_of_mem_classify

theorem getElem?_passCells (h : buffer.Consistent) {offset : Nat} {before : AttributeSet}
    (hbefore : buffer.runs.cells[offset]? = some before) :
    buffer.passCells[offset]? = some
      ((before.insert fontName buffer.font).assign colorName (buffer.colorAt? offset)) := by
  have hlt : offset < buffer.length := by
    rw [← h.length_cells]
    exact (List.getElem?_eq_some_iff.1 hbefore).1
  rw [passCells, shownOver, List.getElem?_zipWith', List.getElem?_map, hbefore,
    getElem?_colors buffer hlt]
  rfl

/-- Every attribute set that a pass leaves is one that was stored, with the font
and the color of some character. -/
theorem exists_of_mem_cells_colorize (h : buffer.Consistent) {spans : Nat}
    (hpass : buffer.colorize = .ok (colored, spans)) {cell : AttributeSet}
    (hcell : cell ∈ colored.runs.cells) :
    ∃ before ∈ buffer.runs.cells, ∃ offset,
      cell = (before.insert fontName buffer.font).assign colorName (buffer.colorAt? offset) := by
  obtain ⟨withFont, hfont, hrest⟩ := exists_of_bind_eq_ok hpass
  obtain ⟨assigned, hassigned, hresult⟩ := exists_of_bind_eq_ok hrest
  obtain ⟨fontRuns, hfontRuns, rfl⟩ := exists_runs_of_restyle hfont
  obtain ⟨runs, hruns, rfl⟩ := exists_runs_of_restyle hassigned
  cases hresult
  have hadd : (Operation.addAttribute fontName buffer.font buffer.whole).apply buffer.runs =
      .ok fontRuns := hfontRuns
  have hassign : (Operation.assignAttribute colorName
      (buffer.colors (buffer.roles.classify buffer.text))).apply fontRuns = .ok runs := hruns
  have hcanonical := (represents_of_apply h.canonical hadd).2.canonical
  obtain ⟨offset, hoffset⟩ :=
    List.getElem?_of_mem (cells_subset_of_apply hcanonical hassign hcell)
  rw [Operation.onCells, List.getElem?_zipWith_eq_some] at hoffset
  obtain ⟨attributes, value, hattributes, hvalue, rfl⟩ := hoffset
  have hlt : offset < buffer.length := by
    rw [← length_colors buffer]
    exact (List.getElem?_eq_some_iff.1 hvalue).1
  rw [getElem?_colors buffer hlt] at hvalue
  have hmem := cells_subset_of_apply h.canonical hadd (List.mem_of_getElem? hattributes)
  rw [Operation.onCells, whole, ← h.length_cells, onSpan_whole] at hmem
  obtain ⟨before, hbefore, rfl⟩ := List.mem_map.1 hmem
  exact ⟨before, hbefore, offset, by rw [Option.some.inj hvalue]⟩

/-- Colors that are alike are the same. -/
theorem map_colorValue_eq {layer layer' : Option Layer}
    (h : Value.AlikeOption (layer.map buffer.colorValue) (layer'.map buffer.colorValue)) :
    layer.map buffer.colorValue = layer'.map buffer.colorValue :=
  Value.map_text_eq (fun layer => (buffer.palette.color layer).toText) h

/-- What a pass stores for a character. -/
theorem attributes_after_pass (h : buffer.Consistent) {spans : Nat}
    (hpass : buffer.colorize = .ok (colored, spans)) {offset : Nat}
    {before after : AttributeSet} (hbefore : buffer.runs.cells[offset]? = some before)
    (hafter : colored.runs.cells[offset]? = some after) :
    after.get? fontName = some buffer.font ∧
      after.get? colorName = buffer.colorAt? offset ∧
      ∀ name, name ≠ fontName → name ≠ colorName →
        Value.AlikeOption (after.get? name) (before.get? name) := by
  have hnames : fontName ≠ colorName := by decide
  obtain ⟨found, hfound, hrepresents⟩ := exists_colorize h
  cases hpass.symm.trans hfound
  have halike := alikeCells_iff_getElem?.1 hrepresents.alike offset
  rw [hafter, getElem?_passCells h hbefore] at halike
  obtain ⟨source, -, origin, rfl⟩ :=
    exists_of_mem_cells_colorize h hpass (List.mem_of_getElem? hafter)
  cases halike with
  | some halike =>
      refine ⟨?_, ?_, ?_⟩
      · rw [AttributeSet.get?_assign, if_neg hnames, AttributeSet.get?_insert, if_pos rfl]
      · have hcolor := halike colorName
        simp only [AttributeSet.get?_assign, if_pos] at hcolor ⊢
        exact map_colorValue_eq hcolor
      · intro name hfont hcolor
        have hname := halike name
        rwa [AttributeSet.get?_assign _ _ _ (buffer.colorAt? offset), if_neg hcolor,
          AttributeSet.get?_insert, if_neg hfont] at hname

/-- A look-up in the buffer finds what is stored for the character. -/
theorem Consistent.exists_attributesAt (h : buffer.Consistent) {offset : Nat}
    (hoffset : offset < buffer.length) :
    ∃ attributes span, buffer.attributesAt offset = .ok (attributes, span) ∧
      buffer.runs.cells[offset]? = some attributes := by
  have htext : ¬ buffer.text.isEmpty = true := by
    intro hempty
    rw [Buffer.length, List.isEmpty_iff.1 hempty] at hoffset
    exact Nat.not_lt_zero _ hoffset
  have hlt : (offset : Int) < buffer.runs.length := by
    rw [h.length]
    exact Int.ofNat_lt.2 hoffset
  rw [attributesAt, if_neg htext]
  exact RunList.exists_attributesAt h.canonical.toWellFormed hlt

end Buffer

/-- In every state that a call can find, a pass succeeds and changes nothing but the
runs.  Afterwards every character has the font of the buffer and the color of the
layer on top at its offset: a comment, else a quoted value inside of a tag, else a
tag, else none.  All its other attributes are alike to those before. -/
theorem Session.get?_attributesAt_colorize (font : Value) (roles : Roles) {session : Session}
    (hreached : Reached (new (Buffer.new font roles)) session) :
    let buffer := session.buffer
    ∃ colored, buffer.colorize = .ok (colored, (buffer.roles.classify buffer.text).length) ∧
      colored = { buffer with runs := colored.runs } ∧
      ∀ offset < buffer.length, ∃ before after span span',
        buffer.attributesAt offset = .ok (before, span) ∧
        colored.attributesAt offset = .ok (after, span') ∧
        after.get? colorName =
          (buffer.roles.layerAt? buffer.text offset).map buffer.colorValue ∧
        after.get? fontName = some buffer.font ∧
        ∀ name, name ≠ fontName → name ≠ colorName →
          Value.AlikeOption (after.get? name) (before.get? name) := by
  intro buffer
  have h : buffer.Consistent :=
    keptByBuffers_consistent.reached hreached (Buffer.consistent_new font roles)
  obtain ⟨colored, hpass, -⟩ := Buffer.exists_colorize h
  obtain ⟨runs, hframe⟩ := Buffer.eq_of_colorize_eq_ok hpass
  have hcolored : colored.Consistent := Buffer.consistent_colorize h hpass
  have hlength : colored.length = buffer.length := by rw [hframe, Buffer.length, Buffer.length]
  refine ⟨colored, hpass, by rw [hframe], ?_⟩
  intro offset hoffset
  obtain ⟨before, span, hbefore, hcell⟩ := h.exists_attributesAt hoffset
  obtain ⟨after, span', hafter, hcell'⟩ := hcolored.exists_attributesAt (hlength ▸ hoffset)
  obtain ⟨hfont, hcolor, hothers⟩ := Buffer.attributes_after_pass h hpass hcell hcell'
  exact ⟨before, after, span, span', hbefore, hafter, hcolor, hfont, hothers⟩

/-- A session whose text has a quoted value in a tag. -/
def quotedTag : Session :=
  (Session.new (Buffer.new hiddenFont .standard)).runAll
    [.setText (.plain ['<', 'a', '=', '"', 'b', '"', '>'])]

/-- The quoted value shows over the tag. -/
theorem get?_attributesAt_colorize_quotedTag :
    Session.Reached (Session.new (Buffer.new hiddenFont .standard)) quotedTag ∧
      ∃ colored after span, quotedTag.buffer.colorize = .ok (colored, 2) ∧
        colored.attributesAt (4 : Nat) = .ok (after, span) ∧
        after.get? colorName = some (quotedTag.buffer.colorValue .quoted) := by
  have hreached : Session.Reached (Session.new (Buffer.new hiddenFont .standard)) quotedTag :=
    Session.reached_runAll .start _
  have hlength : 4 < quotedTag.buffer.length := by decide +kernel
  have hspans : (quotedTag.buffer.roles.classify quotedTag.buffer.text).length = 2 := by
    decide +kernel
  have hlayer : quotedTag.buffer.roles.layerAt? quotedTag.buffer.text 4 = some .quoted := by
    decide +kernel
  obtain ⟨colored, hpass, -, hcharacters⟩ :=
    Session.get?_attributesAt_colorize hiddenFont .standard hreached
  obtain ⟨-, after, -, span, -, hafter, hcolor, -⟩ := hcharacters 4 hlength
  rw [hspans] at hpass
  rw [hlayer] at hcolor
  exact ⟨hreached, colored, after, span, hpass, hafter, hcolor⟩

end MarkupEditor
