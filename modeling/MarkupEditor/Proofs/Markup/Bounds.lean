import MarkupEditor.Markup.Layer
import Mathlib.Data.List.Basic

/-!
# Markup lies inside of its text

A match is made of characters of the text it was found in, so its span ends
where the text ends at the latest.  Marks laid over such spans go into cells that
are there, and leave as many cells as there were.
-/

namespace MarkupEditor

namespace Pattern

/-- The induction is on the text; neither the characters that are skipped nor the
offset at which the text begins matter. -/
theorem scan_within {pattern : Pattern} {offset skip : Nat} {text : List Char} {found : Match}
    (h : found ∈ pattern.scan offset skip text) :
    offset ≤ found.start ∧ found.span.stop ≤ offset + text.length := by
  induction text generalizing offset skip with
  | nil => cases skip <;> cases h
  | cons c rest ih =>
      have hlater {skip : Nat} (h : found ∈ pattern.scan (offset + 1) skip rest) :
          offset ≤ found.start ∧ found.span.stop ≤ offset + (c :: rest).length := by
        have hrest := ih h
        rw [List.length_cons]
        omega
      cases skip with
      | succ skip => exact hlater h
      | zero =>
          rw [scan] at h
          split at h
          · next length _ =>
            rcases List.mem_cons.1 h with rfl | h
            · have hle : ((c :: rest).take length).length ≤ (c :: rest).length :=
                List.length_take_le' ..
              exact ⟨Nat.le_refl _, Nat.add_le_add_left hle offset⟩
            · exact hlater h
          · split at h
            · cases h
            · exact hlater h

theorem stop_le_of_mem_findAll {pattern : Pattern} {text : List Char} {span : Span}
    (h : span ∈ pattern.findAll text) : span.stop ≤ text.length := by
  obtain ⟨found, hfound, rfl⟩ := List.mem_map.1 h
  rw [search] at hfound
  have hwithin := (scan_within hfound).2
  omega

theorem stop_le_of_mem_findInside {pattern : Pattern} {outer : Match} {span : Span}
    (h : span ∈ pattern.findInside outer) : span.stop ≤ outer.span.stop := by
  obtain ⟨found, hfound, rfl⟩ := List.mem_map.1 h
  exact (scan_within hfound).2

end Pattern

/-- All spans of markup end inside of the text. -/
theorem Roles.stop_le_of_mem_classify {roles : Roles} {text : List Char} {item : Span × Layer}
    (h : item ∈ roles.classify text) : item.1.stop ≤ text.length := by
  rw [classify, List.mem_append] at h
  rcases h with h | h
  · obtain ⟨tag, htag, hitem⟩ := List.mem_flatMap.1 h
    have hstop : tag.span.stop ≤ text.length :=
      Pattern.stop_le_of_mem_findAll (List.mem_map_of_mem htag)
    rcases List.mem_cons.1 hitem with rfl | hquoted
    · exact hstop
    · obtain ⟨quoted, hfound, rfl⟩ := List.mem_map.1 hquoted
      exact Nat.le_trans (Pattern.stop_le_of_mem_findInside hfound) hstop
  · obtain ⟨comment, hfound, rfl⟩ := List.mem_map.1 h
    exact Pattern.stop_le_of_mem_findAll hfound

/-! ### Laying spans over cells -/

section

variable {α β : Type}

theorem getElem?_toList_overlay {cells : Array (Option α)} {span : Span}
    (hspan : span.stop ≤ cells.size) (mark : α) (index : Nat) :
    (overlay cells span mark).toList[index]? =
      if span.start ≤ index ∧ index < span.stop then some (some mark)
      else cells.toList[index]? := by
  have hlength : span.start + span.length ≤ cells.toList.length := hspan
  have hbefore : (cells.toList.take span.start).length = span.start := by
    rw [List.length_take]
    omega
  rw [overlay, toList_setCells, List.append_assoc, List.getElem?_append, hbefore, Span.stop]
  by_cases hleft : index < span.start
  · rw [if_pos hleft, if_neg (by omega), List.getElem?_take_of_lt hleft]
  · rw [if_neg hleft, List.getElem?_append, List.length_replicate]
    by_cases hright : index - span.start < span.length
    · rw [if_pos hright, if_pos (by omega), List.getElem?_replicate_of_lt hright]
    · rw [if_neg hright, if_neg (by omega), List.getElem?_drop]
      congr 1
      omega

theorem size_overlay {cells : Array (Option α)} {span : Span} (hspan : span.stop ≤ cells.size)
    (mark : α) : (overlay cells span mark).size = cells.size := by
  have hlength : span.start + span.length ≤ cells.toList.length := hspan
  rw [overlay, ← Array.length_toList, toList_setCells, ← Array.length_toList]
  simp only [List.length_append, List.length_take, List.length_replicate, List.length_drop]
  omega

theorem size_foldl_overlay (mark : α → β) {items : List (Span × α)} {cells : Array (Option β)}
    (hitems : ∀ item ∈ items, item.1.stop ≤ cells.size) :
    (items.foldl (fun cells item => overlay cells item.1 (mark item.2)) cells).size =
      cells.size := by
  induction items generalizing cells with
  | nil => rfl
  | cons item rest ih =>
      have hsize := size_overlay (hitems item (List.mem_cons_self ..)) (mark item.2)
      rw [List.foldl_cons, ih, hsize]
      intro other hother
      rw [hsize]
      exact hitems other (List.mem_cons_of_mem _ hother)

/-- One mark or none shows at every offset of a text that all spans lie inside of. -/
theorem length_showing {length : Nat} {items : List (Span × α)}
    (hitems : ∀ item ∈ items, item.1.stop ≤ length) : (showing length items).length = length := by
  rw [showing, Array.length_toList]
  refine (size_foldl_overlay id ?_).trans Array.size_replicate
  rwa [Array.size_replicate]

end

theorem length_layersOf (roles : Roles) (text : List Char) :
    (layersOf roles text).length = text.length :=
  length_showing fun _ => Roles.stop_le_of_mem_classify

end MarkupEditor
