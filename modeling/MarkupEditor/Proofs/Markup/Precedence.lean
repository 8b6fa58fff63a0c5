import MarkupEditor.Proofs.Markup.Matches

/-!
# What shows at an offset

Of spans laid over each other the last one that covers an offset shows there.
Since tags do not overlap and quoted values stay inside of their tag, a comment
shows wherever there is one, else a quoted value, else a tag.
-/

namespace MarkupEditor

/-- The mark of the last span that covers an offset. -/
def topmost {α : Type} (offset : Nat) : List (Span × α) → Option α
  | [] => none
  | item :: rest =>
    (topmost offset rest).or (if item.1.contains offset then some item.2 else none)

section

variable {α β : Type}

theorem topmost_append (offset : Nat) (left right : List (Span × α)) :
    topmost offset (left ++ right) = (topmost offset right).or (topmost offset left) := by
  induction left with
  | nil => exact Option.or_none.symm
  | cons item rest ih =>
      rw [List.cons_append, topmost, topmost, ih, Option.or_assoc]

theorem topmost_map (offset : Nat) (mark : α → β) (items : List (Span × α)) :
    topmost offset (items.map fun item => (item.1, mark item.2)) =
      (topmost offset items).map mark := by
  induction items with
  | nil => rfl
  | cons item rest ih =>
      rw [List.map_cons, topmost, topmost, ih]
      cases topmost offset rest with
      | some found => rfl
      | none =>
          by_cases hitem : item.1.contains offset
          · simp [hitem]
          · simp [hitem]

/-- Spans that all bear the same mark. -/
theorem topmost_map_mark (offset : Nat) (mark : α) (spans : List Span) :
    topmost offset (spans.map (·, mark)) =
      if ∃ span ∈ spans, span.contains offset then some mark else none := by
  induction spans with
  | nil => simp [topmost]
  | cons span rest ih =>
      rw [List.map_cons, topmost, ih]
      by_cases hrest : ∃ other ∈ rest, other.contains offset = true
      · have hany : ∃ other ∈ span :: rest, other.contains offset = true := by
          obtain ⟨other, hother, hcontains⟩ := hrest
          exact ⟨other, List.mem_cons_of_mem _ hother, hcontains⟩
        rw [if_pos hrest, if_pos hany]
        rfl
      · rw [if_neg hrest]
        have hiff : (∃ other ∈ span :: rest, other.contains offset = true) ↔
            span.contains offset = true := by
          rw [List.exists_mem_cons_iff, or_iff_left hrest]
        rw [if_congr hiff rfl rfl]
        rfl

theorem contains_iff {span : Span} {offset : Nat} :
    span.contains offset ↔ span.start ≤ offset ∧ offset < span.stop := by
  simp [Span.contains]

theorem getElem?_overlay {cells : Array (Option α)} {span : Span} (hspan : span.stop ≤ cells.size)
    (mark : α) (offset : Nat) :
    (overlay cells span mark)[offset]? =
      cells[offset]?.map (if span.contains offset then some mark else none).or := by
  rw [← Array.getElem?_toList, getElem?_toList_overlay hspan, Array.getElem?_toList]
  by_cases hin : span.contains offset
  · have hbounds := contains_iff.1 hin
    have hlt : offset < cells.size := Nat.lt_of_lt_of_le hbounds.2 hspan
    rw [if_pos hbounds, if_pos hin, Array.getElem?_eq_getElem hlt]
    rfl
  · have hbounds : ¬ (span.start ≤ offset ∧ offset < span.stop) := fun h => hin (contains_iff.2 h)
    rw [if_neg hbounds, if_neg hin]
    cases cells[offset]? <;> rfl

theorem getElem?_foldl_overlay {items : List (Span × α)} {cells : Array (Option α)}
    (hitems : ∀ item ∈ items, item.1.stop ≤ cells.size) (offset : Nat) :
    (items.foldl (fun cells item => overlay cells item.1 item.2) cells)[offset]? =
      cells[offset]?.map (topmost offset items).or := by
  induction items generalizing cells with
  | nil =>
      rw [List.foldl_nil, topmost]
      cases cells[offset]? <;> rfl
  | cons item rest ih =>
      obtain ⟨hspan, hrest⟩ := List.forall_mem_cons.1 hitems
      rw [List.foldl_cons, ih, getElem?_overlay hspan, Option.map_map]
      · congr 1
        funext shown
        exact Option.or_assoc.symm
      · rwa [size_overlay hspan]

/-- What shows at an offset is the mark of the last span that covers it. -/
theorem getElem?_showing {length offset : Nat} (h : offset < length) {items : List (Span × α)}
    (hitems : ∀ item ∈ items, item.1.stop ≤ length) :
    (showing length items)[offset]? = some (topmost offset items) := by
  rw [showing, Array.getElem?_toList, getElem?_foldl_overlay, Array.getElem?_replicate, if_pos h]
  · simp
  · rwa [Array.size_replicate]

end

namespace Roles

variable {roles : Roles} {text : List Char}

/-- The layer on top at an offset: comments lie over the quoted values inside of
tags, and these lie over the tags. -/
def layerAt? (roles : Roles) (text : List Char) (offset : Nat) : Option Layer :=
  if ∃ comment ∈ roles.comment.findAll text, comment.contains offset then some .comment
  else if ∃ tag ∈ roles.tag.findAll text, ∃ quoted ∈ roles.quoted.findIn text tag,
    quoted.contains offset then some .quoted
  else if ∃ tag ∈ roles.tag.findAll text, tag.contains offset then some .tag
  else none

/-- The spans of a tag and of the quoted values inside of it. -/
def tagItems (roles : Roles) (tag : Match) : List (Span × Layer) :=
  (tag.span, .tag) :: (roles.quoted.findInside tag).map (·, .quoted)

theorem topmost_tagItems (roles : Roles) (tag : Match) (offset : Nat) :
    topmost offset (roles.tagItems tag) =
      if ∃ quoted ∈ roles.quoted.findInside tag, quoted.contains offset then some .quoted
      else if tag.span.contains offset then some .tag else none := by
  rw [tagItems, topmost, topmost_map_mark]
  by_cases hquoted : ∃ quoted ∈ roles.quoted.findInside tag, quoted.contains offset = true
  · rw [if_pos hquoted, if_pos hquoted]
    rfl
  · rw [if_neg hquoted, if_neg hquoted]
    rfl

/-- A quoted value stays inside of the tag it was found in. -/
theorem contains_of_mem_findInside {pattern : Pattern} {outer : Match} {span : Span} {offset : Nat}
    (h : span ∈ pattern.findInside outer) (hspan : span.contains offset) :
    outer.span.contains offset := by
  have hstop := Pattern.stop_le_of_mem_findInside h
  obtain ⟨found, hfound, rfl⟩ := List.mem_map.1 h
  have hstart : outer.start ≤ found.span.start := (Pattern.scan_within hfound).1
  have hin := contains_iff.1 hspan
  exact contains_iff.2 ⟨Nat.le_trans hstart hin.1, Nat.lt_of_lt_of_le hin.2 hstop⟩

/-- The induction is on the tags; what a later tag covers, an earlier one and its
quoted values leave free. -/
theorem topmost_tags (roles : Roles) (offset : Nat) {tags : List Match}
    (h : tags.Pairwise fun left right => left.span.stop ≤ right.start) :
    topmost offset (tags.flatMap roles.tagItems) =
      if ∃ tag ∈ tags, ∃ quoted ∈ roles.quoted.findInside tag, quoted.contains offset then
        some .quoted
      else if ∃ tag ∈ tags, tag.span.contains offset then some .tag
      else none := by
  induction tags with
  | nil => simp [topmost]
  | cons tag rest ih =>
      obtain ⟨htag, hrest⟩ := List.pairwise_cons.1 h
      rw [List.flatMap_cons, topmost_append, ih hrest, topmost_tagItems]
      simp only [List.exists_mem_cons_iff]
      by_cases hlater : ∃ later ∈ rest, later.span.contains offset = true
      · have houtside : ¬ tag.span.contains offset = true := by
          obtain ⟨later, hmem, hcontains⟩ := hlater
          have hbehind := htag later hmem
          have hin := contains_iff.1 hcontains
          intro hcovered
          have hbefore := (contains_iff.1 hcovered).2
          exact absurd (Nat.lt_of_lt_of_le hbefore hbehind) (Nat.not_lt.2 hin.1)
        have hfree : ¬ ∃ quoted ∈ roles.quoted.findInside tag, quoted.contains offset = true := by
          rintro ⟨quoted, hquoted, hcontains⟩
          exact houtside (contains_of_mem_findInside hquoted hcontains)
        rw [if_congr (or_iff_right hfree) rfl rfl, if_congr (or_iff_right houtside) rfl rfl,
          if_pos hlater]
        split
        · rfl
        · rfl
      · have hfree : ¬ ∃ later ∈ rest, ∃ quoted ∈ roles.quoted.findInside later,
            quoted.contains offset = true := by
          rintro ⟨later, hmem, quoted, hquoted, hcontains⟩
          exact hlater ⟨later, hmem, contains_of_mem_findInside hquoted hcontains⟩
        rw [if_neg hfree, if_neg hlater, if_congr (or_iff_left hfree) rfl rfl,
          if_congr (or_iff_left hlater) rfl rfl]
        rfl

/-- The last span of markup that covers an offset is of the layer on top. -/
theorem topmost_classify (roles : Roles) (text : List Char) (offset : Nat) :
    topmost offset (roles.classify text) = roles.layerAt? text offset := by
  have hquoted : (∃ tag ∈ roles.tag.search text, ∃ quoted ∈ roles.quoted.findInside tag,
      quoted.contains offset = true) ↔
      ∃ tag ∈ roles.tag.findAll text, ∃ quoted ∈ roles.quoted.findIn text tag,
        quoted.contains offset = true := by
    simp only [Pattern.findAll, List.mem_map, exists_exists_and_eq_and]
    refine exists_congr fun tag => and_congr_right fun htag => ?_
    rw [Pattern.findIn_span htag]
  have htag : (∃ tag ∈ roles.tag.search text, tag.span.contains offset = true) ↔
      ∃ tag ∈ roles.tag.findAll text, tag.contains offset = true := by
    simp only [Pattern.findAll, List.mem_map, exists_exists_and_eq_and]
  have htags := roles.topmost_tags offset (roles.tag.pairwise_search text)
  rw [if_congr hquoted rfl rfl, if_congr htag rfl rfl] at htags
  rw [classify, topmost_append, topmost_map_mark]
  change Option.or _ (topmost offset ((roles.tag.search text).flatMap roles.tagItems)) = _
  rw [htags, layerAt?]
  split
  · rfl
  · rfl

end Roles

/-- Every character of a text shows the layer on top at its offset. -/
theorem getElem?_layersOf (roles : Roles) {text : List Char} {offset : Nat}
    (h : offset < text.length) :
    (layersOf roles text)[offset]? = some (roles.layerAt? text offset) := by
  rw [layersOf, getElem?_showing h fun _ => Roles.stop_le_of_mem_classify, Roles.topmost_classify]

end MarkupEditor
