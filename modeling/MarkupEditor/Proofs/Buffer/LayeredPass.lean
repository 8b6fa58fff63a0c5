import MarkupEditor.Proofs.Buffer.Consistent
import MarkupEditor.Proofs.Runs.Layers
import MarkupEditor.Proofs.Runs.Uniqueness

/-!
# A pass and its layers

A pass finds the color that shows at every character first and assigns them all
at once.  Laying the colors down span by span, each over those before it, gives
every character the same attributes, and hence the same runs.
-/

namespace MarkupEditor

namespace Buffer

open RunList

variable {buffer : Buffer}

theorem colors_eq (buffer : Buffer) (items : List (Span × Layer)) :
    buffer.colors items =
      (items.foldl (fun cells item => overlay cells item.1 (buffer.colorValue item.2))
        (Array.replicate buffer.length none)).toList := by
  rw [colors, showing, List.foldl_map]

/-- A color or none for every character, since the spans of markup lie inside of the text. -/
theorem length_colors (buffer : Buffer) :
    (buffer.colors (buffer.roles.classify buffer.text)).length = buffer.length := by
  refine length_showing ?_
  rw [List.forall_mem_map]
  exact fun _ => Roles.stop_le_of_mem_classify

/-- What a pass gives to every character. -/
def passCells (buffer : Buffer) : List AttributeSet :=
  shownOver colorName (buffer.runs.cells.map (·.insert fontName buffer.font))
    (buffer.colors (buffer.roles.classify buffer.text))

theorem Consistent.represents (h : buffer.Consistent) :
    buffer.runs.Represents buffer.runs.cells := ⟨h.canonical, AlikeCells.refl _⟩

theorem Consistent.length_cells (h : buffer.Consistent) :
    buffer.runs.cells.length = buffer.length := by
  have hcells := h.canonical.toWellFormed.length_cells
  rw [h.length] at hcells
  exact Int.ofNat_inj.1 hcells

/-- A pass never fails. -/
theorem exists_colorize (h : buffer.Consistent) :
    ∃ colored, buffer.colorize = .ok (colored, (buffer.roles.classify buffer.text).length) ∧
      colored.runs.Represents buffer.passCells := by
  obtain ⟨withFont, hfont, hbase⟩ :=
    h.represents.assign_whole h.length fontName (some buffer.font)
  have hvalues : ((buffer.colors (buffer.roles.classify buffer.text)).length : Int) =
      withFont.length := by
    rw [length_colors, ← hbase.length_eq, List.length_map, h.length_cells]
  obtain ⟨runs, hruns, hrepresents⟩ := represents_assignAttribute hbase.canonical colorName hvalues
  have hadd : buffer.addAttribute fontName buffer.font buffer.whole =
      .ok { buffer with runs := withFont } := congrArg buffer.restyle hfont
  have hassign : Buffer.assignAttribute { buffer with runs := withFont } colorName
      (buffer.colors (buffer.roles.classify buffer.text)) = .ok { buffer with runs := runs } :=
    congrArg (restyle _) hruns
  refine ⟨{ buffer with runs := runs }, ?_, hrepresents.canonical, ?_⟩
  · exact (bind_eq_of_eq_ok hadd _).trans (bind_eq_of_eq_ok hassign _)
  · exact hrepresents.alike.trans (alikeCells_shownOver hbase.alike _ _)

/-- A pass that is laid down layer by layer never fails either, and gives every
character the same. -/
theorem exists_layeredRuns (h : buffer.Consistent) :
    ∃ runs, buffer.layeredRuns = .ok runs ∧ runs.Represents buffer.passCells := by
  obtain ⟨bare, hremove, hbare⟩ := h.represents.assign_whole h.length colorName none
  have hlength : bare.length = buffer.length := by
    rw [← hbare.length_eq, List.length_map, h.length_cells]
  obtain ⟨withFont, hadd, hfont⟩ := hbare.assign_whole hlength fontName (some buffer.font)
  have hbase : withFont.Represents
      (shownOver colorName (buffer.runs.cells.map (·.insert fontName buffer.font))
        (Array.replicate buffer.length none).toList) := by
    rw [Array.toList_replicate, ← h.length_cells]
    have hnames : fontName ≠ colorName := by decide
    exact ⟨hfont.canonical,
      hfont.alike.trans (alikeCells_shownOver_none _ hnames buffer.font)⟩
  have hitems : ∀ item ∈ buffer.roles.classify buffer.text,
      (item.1.stop : Int) ≤ withFont.length := by
    intro item hitem
    have hstop : item.1.stop ≤ buffer.length := Roles.stop_le_of_mem_classify hitem
    rw [← hfont.length_eq, List.length_map, List.length_map, h.length_cells]
    exact Int.ofNat_le.2 hstop
  obtain ⟨runs, hruns, hrepresents⟩ :=
    exists_foldlM_addAttribute colorName buffer.colorValue hbase hitems
  refine ⟨runs, ?_, ?_⟩
  · exact (bind_eq_of_eq_ok hremove _).trans ((bind_eq_of_eq_ok hadd _).trans hruns)
  · rw [passCells, colors_eq]
    exact hrepresents

end Buffer

/-- In every session both forms of a pass succeed and leave the same runs, and
the pass counts all spans of markup. -/
theorem Session.colorize_alike_layeredRuns (font : Value) (roles : Roles)
    (commands : List Command) :
    let buffer := ((Session.new (Buffer.new font roles)).runAll commands).buffer
    ∃ colored runs,
      buffer.colorize = .ok (colored, (buffer.roles.classify buffer.text).length) ∧
      buffer.layeredRuns = .ok runs ∧ RunList.AlikeRuns colored.runs.runs runs.runs := by
  intro buffer
  have hconsistent : buffer.Consistent :=
    keptByBuffers_consistent.runAll commands (Buffer.consistent_new font roles)
  obtain ⟨colored, hcolored, hcells⟩ := Buffer.exists_colorize hconsistent
  obtain ⟨runs, hruns, hlayers⟩ := Buffer.exists_layeredRuns hconsistent
  exact ⟨colored, runs, hcolored, hruns, hcells.alikeRuns hlayers⟩

end MarkupEditor
