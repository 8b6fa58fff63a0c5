import MarkupEditor.Proofs.Markup.Search

/-!
# Searching a part of a text

A part of a text is searched as if it were a text of its own: its matches are those of the
part by itself, moved to where the part begins, and what stands around the part makes no
difference.  They are also the matches that a search of the whole text finds if it begins
where the part does and takes the end of the part for the end of the text.

Tags are searched for in the whole text and quoted values in the part that a tag covers.
So in the markup of a text the tags lie apart, and each quoted value lies in the tag that
is listed last before it.
-/

namespace MarkupEditor

namespace Match

/-- The same characters some places further on. -/
def shift (found : Match) (distance : Nat) : Match := ⟨found.start + distance, found.text⟩

@[simp]
theorem span_shift (found : Match) (distance : Nat) :
    (found.shift distance).span = found.span.shift distance := rfl

end Match

namespace Pattern

variable {pattern : Pattern} {text other : List Char} {part : Span}

/-- Where a text begins only decides where its matches begin. -/
theorem scan_add (pattern : Pattern) (offset distance skip : Nat) (text : List Char) :
    pattern.scan (offset + distance) skip text =
      (pattern.scan offset skip text).map (·.shift distance) := by
  induction text generalizing offset skip with
  | nil => cases skip <;> rfl
  | cons c rest ih =>
      have hnext (skip : Nat) : pattern.scan (offset + distance + 1) skip rest =
          (pattern.scan (offset + 1) skip rest).map (·.shift distance) := by
        rw [Nat.add_right_comm]
        exact ih (offset + 1) skip
      cases skip with
      | succ skip => exact hnext skip
      | zero =>
          rw [scan, scan]
          split
          · next length _ =>
            rw [hnext]
            rfl
          · split
            · rfl
            · exact hnext 0

theorem findInside_eq (pattern : Pattern) (outer : Match) :
    pattern.findInside outer = (pattern.findAll outer.text).map (·.shift outer.start) := by
  have hscan := pattern.scan_add 0 outer.start 0 outer.text
  rw [Nat.zero_add] at hscan
  rw [findInside, hscan, findAll, List.map_map, List.map_map]
  rfl

theorem findIn_eq (pattern : Pattern) (text : List Char) (part : Span) :
    pattern.findIn text part =
      (pattern.findAll ((text.take (min part.stop text.length)).drop
        (min part.start text.length))).map (·.shift (min part.start text.length)) :=
  pattern.findInside_eq _

/-- The characters of a part are those it has in the text, as far as there are any. -/
theorem findIn_eq_drop_take (pattern : Pattern) (text : List Char) (part : Span) :
    pattern.findIn text part =
      (pattern.findAll ((text.drop part.start).take part.length)).map (·.shift part.start) := by
  rw [findIn_eq, List.drop_take]
  by_cases hstart : part.start ≤ text.length
  · have hlength : (text.drop part.start).take (min part.stop text.length - part.start) =
        (text.drop part.start).take part.length := by
      rw [List.take_eq_take_iff, List.length_drop, Span.stop]
      omega
    rw [Nat.min_eq_left hstart, hlength]
  · have hnothing (start : Nat) (hbehind : text.length ≤ start) : text.drop start = [] :=
      List.drop_eq_nil_of_le hbehind
    rw [hnothing part.start (by omega), hnothing (min part.start text.length) (by omega),
      List.take_nil, List.take_nil]
    rfl

/-- Texts with the same characters in a part have the same matches there. -/
theorem findIn_congr (h : ∀ place : Nat, part.contains place → other[place]? = text[place]?) :
    pattern.findIn other part = pattern.findIn text part := by
  have hpart : (other.drop part.start).take part.length =
      (text.drop part.start).take part.length := by
    apply List.ext_getElem?
    intro index
    rw [List.getElem?_take, List.getElem?_take]
    split
    · next hlt =>
      rw [List.getElem?_drop, List.getElem?_drop]
      apply h
      rw [contains_iff, Span.stop]
      omega
    · rfl
  rw [findIn_eq_drop_take, findIn_eq_drop_take, hpart]

namespace Exhausts

variable {start distance : Nat} {span : Span} {spans : List Span}

/-- What is found behind some characters is found in the whole text from there on. -/
theorem shift (h : pattern.Exhausts (text.drop distance) start spans) :
    pattern.Exhausts text (start + distance) (spans.map (·.shift distance)) where
  start_le := by
    intro moved hmoved
    obtain ⟨span, hspan, rfl⟩ := List.mem_map.1 hmoved
    exact Nat.add_le_add_right (h.start_le span hspan) distance
  ordered := by
    rw [List.pairwise_map]
    apply h.ordered.imp
    intro left right hapart
    simp only [Span.shift, Span.stop] at hapart ⊢
    omega
  matched := by
    intro moved hmoved
    obtain ⟨span, hspan, rfl⟩ := List.mem_map.1 hmoved
    have hmatched := h.matched span hspan
    rwa [List.drop_drop, Nat.add_comm] at hmatched
  complete := by
    intro place hplace houtside
    obtain ⟨inner, rfl⟩ := Nat.exists_eq_add_of_le' (Nat.le_of_add_left_le hplace)
    have hinner : start ≤ inner := Nat.le_of_add_le_add_right hplace
    have hnone := h.complete inner hinner fun span hspan hcontains => by
      apply houtside (span.shift distance) (List.mem_map_of_mem hspan)
      rw [contains_iff] at hcontains ⊢
      simp only [Span.shift, Span.stop] at hcontains ⊢
      omega
    rwa [List.drop_drop, Nat.add_comm] at hnone

/-- A match has characters, and ends where the text does at the latest. -/
theorem bounds (h : pattern.Exhausts text start spans) (hspan : span ∈ spans) :
    0 < span.length ∧ span.stop ≤ text.length := by
  obtain ⟨hpos, hle⟩ := matchLength?_bounds (h.matched span hspan)
  rw [List.length_drop] at hle
  rw [Span.stop]
  omega

end Exhausts

/-- The search of a part is a search of the text that begins where the part does and sees
the text end where the part does. -/
theorem exhausts_findIn (pattern : Pattern) (text : List Char) (part : Span) :
    pattern.Exhausts (text.take (min part.stop text.length)) (min part.start text.length)
      (pattern.findIn text part) := by
  have hpart := pattern.exhausts_findAll
    ((text.take (min part.stop text.length)).drop (min part.start text.length))
  have hmoved := hpart.shift
  rwa [Nat.zero_add, ← findIn_eq] at hmoved

theorem within_of_mem_findIn {span : Span} (h : span ∈ pattern.findIn text part) :
    min part.start text.length ≤ span.start ∧ 0 < span.length ∧
      span.stop ≤ min part.stop text.length := by
  have hexhausts := pattern.exhausts_findIn text part
  obtain ⟨hpos, hstop⟩ := hexhausts.bounds h
  rw [List.length_take_of_le (Nat.min_le_right ..)] at hstop
  exact ⟨hexhausts.start_le span h, hpos, hstop⟩

end Pattern

/-! ### The markup of a text -/

/-- The spans of the tags among items of markup. -/
def tagSpans (items : List (Span × Layer)) : List Span :=
  (items.filter (·.2 = .tag)).map Prod.fst

@[simp]
theorem tagSpans_append (left right : List (Span × Layer)) :
    tagSpans (left ++ right) = tagSpans left ++ tagSpans right := by
  rw [tagSpans, List.filter_append, List.map_append]
  rfl

/-- Each quoted value among items of markup lies in the tag that is listed last before it. -/
def QuotedInTags (items : List (Span × Layer)) : Prop :=
  ∀ before span behind, items = before ++ (span, Layer.quoted) :: behind →
    ∃ tag, (tagSpans before).getLast? = some tag ∧ tag.start ≤ span.start ∧ span.stop ≤ tag.stop

/-- Items of markup whose spans hold characters of a text, with tags that lie apart in text
order and quoted values inside of them. -/
structure Nested (length : Nat) (items : List (Span × Layer)) : Prop where
  within : ∀ item ∈ items, 0 < item.1.length ∧ item.1.stop ≤ length
  tagsApart : (tagSpans items).Pairwise fun left right => left.stop ≤ right.start
  quotedInTags : QuotedInTags items

theorem QuotedInTags.append {left right : List (Span × Layer)} (hleft : QuotedInTags left)
    (hright : QuotedInTags right) : QuotedInTags (left ++ right) := by
  intro before span behind h
  rcases List.append_eq_append_iff.1 h with ⟨middle, rfl, hmiddle⟩ | ⟨middle, hmiddle, hbehind⟩
  · obtain ⟨tag, htag, hinside⟩ := hright middle span behind hmiddle
    refine ⟨tag, ?_, hinside⟩
    rw [tagSpans_append, List.getLast?_append, htag]
    rfl
  · cases middle with
    | nil =>
        obtain ⟨tag, htag, -⟩ := hright [] span behind hbehind.symm
        cases htag
    | cons first middle =>
        obtain ⟨rfl, rfl⟩ := List.cons.inj hbehind
        exact hleft before span middle hmiddle

theorem quotedInTags_of_forall_ne {items : List (Span × Layer)}
    (h : ∀ item ∈ items, item.2 ≠ .quoted) : QuotedInTags items := by
  rintro before span behind rfl
  exact absurd rfl (h (span, .quoted) (by simp))

namespace Roles

variable (roles : Roles) {text : List Char} {tag : Match}

/-- A quoted value found inside of a tag lies in the tag. -/
theorem within_of_mem_findInside {span : Span} (htag : tag ∈ roles.tag.search text)
    (h : span ∈ roles.quoted.findInside tag) :
    tag.start ≤ span.start ∧ 0 < span.length ∧ span.stop ≤ tag.span.stop := by
  have hstop : tag.span.stop ≤ text.length :=
    Pattern.stop_le_of_mem_findAll (List.mem_map_of_mem htag)
  have hstart : tag.start ≤ text.length := Nat.le_trans (Nat.le_add_right ..) hstop
  rw [← Pattern.findIn_span htag] at h
  have hwithin := Pattern.within_of_mem_findIn h
  rwa [Nat.min_eq_left hstop, Match.span, Nat.min_eq_left hstart] at hwithin

theorem tagSpans_map_mark {mark : Layer} (hmark : mark ≠ .tag) (spans : List Span) :
    tagSpans (spans.map (·, mark)) = [] := by
  rw [tagSpans, List.map_eq_nil_iff, List.filter_eq_nil_iff]
  intro item hitem
  obtain ⟨span, -, rfl⟩ := List.mem_map.1 hitem
  simp [hmark]

theorem tagSpans_tagItems (tag : Match) : tagSpans (roles.tagItems tag) = [tag.span] := by
  rw [tagItems, ← List.singleton_append, tagSpans_append, tagSpans_map_mark (by decide)]
  rfl

theorem tagSpans_flatMap_tagItems (tags : List Match) :
    tagSpans (tags.flatMap roles.tagItems) = tags.map Match.span := by
  induction tags with
  | nil => rfl
  | cons tag rest ih =>
      rw [List.flatMap_cons, tagSpans_append, tagSpans_tagItems, ih]
      rfl

/-- The tags listed are those found in the text. -/
theorem tagSpans_classify (text : List Char) :
    tagSpans (roles.classify text) = roles.tag.findAll text := by
  change tagSpans ((roles.tag.search text).flatMap roles.tagItems ++ _) = _
  rw [tagSpans_append, tagSpans_flatMap_tagItems, tagSpans_map_mark (by decide), List.append_nil]
  rfl

theorem quotedInTags_tagItems (htag : tag ∈ roles.tag.search text) :
    QuotedInTags (roles.tagItems tag) := by
  intro before span behind h
  cases before with
  | nil => cases (List.cons.inj h).1
  | cons first before =>
      obtain ⟨rfl, hrest⟩ : (tag.span, Layer.tag) = first ∧
          (roles.quoted.findInside tag).map (·, Layer.quoted) =
            before ++ (span, .quoted) :: behind := List.cons.inj h
      have hnone : tagSpans before = [] := by
        have hquoted : tagSpans ((roles.quoted.findInside tag).map (·, .quoted)) = [] :=
          tagSpans_map_mark (by decide) _
        rw [hrest, tagSpans_append] at hquoted
        exact (List.append_eq_nil_iff.1 hquoted).1
      have hspan : span ∈ roles.quoted.findInside tag := by
        have hitem : (span, Layer.quoted) ∈ (roles.quoted.findInside tag).map (·, .quoted) := by
          rw [hrest]
          exact List.mem_append_right before List.mem_cons_self
        obtain ⟨found, hfound, heq⟩ := List.mem_map.1 hitem
        rwa [← (Prod.mk.inj heq).1]
      obtain ⟨hstart, -, hstop⟩ := roles.within_of_mem_findInside htag hspan
      refine ⟨tag.span, ?_, hstart, hstop⟩
      change (tag.span :: tagSpans before).getLast? = some tag.span
      rw [hnone]
      rfl

theorem quotedInTags_flatMap_tagItems {tags : List Match}
    (h : ∀ tag ∈ tags, tag ∈ roles.tag.search text) :
    QuotedInTags (tags.flatMap roles.tagItems) := by
  induction tags with
  | nil => exact quotedInTags_of_forall_ne fun item hitem => absurd hitem List.not_mem_nil
  | cons tag rest ih =>
      rw [List.flatMap_cons]
      apply (roles.quotedInTags_tagItems (h tag List.mem_cons_self)).append
      exact ih fun other hother => h other (List.mem_cons_of_mem tag hother)

theorem nested_classify (text : List Char) : Nested text.length (roles.classify text) where
  within := by
    intro item hitem
    refine ⟨?_, stop_le_of_mem_classify hitem⟩
    rcases List.mem_append.1 hitem with hmarkup | hcomment
    · obtain ⟨tag, htag, hitem⟩ := List.mem_flatMap.1 hmarkup
      rcases List.mem_cons.1 hitem with rfl | hquoted
      · exact ((roles.tag.exhausts_findAll text).bounds (List.mem_map_of_mem htag)).1
      · obtain ⟨span, hspan, rfl⟩ := List.mem_map.1 hquoted
        exact (roles.within_of_mem_findInside htag hspan).2.1
    · obtain ⟨span, hspan, rfl⟩ := List.mem_map.1 hcomment
      exact ((roles.comment.exhausts_findAll text).bounds hspan).1
  tagsApart := by
    rw [tagSpans_classify]
    exact (roles.tag.exhausts_findAll text).ordered
  quotedInTags := by
    apply (roles.quotedInTags_flatMap_tagItems fun tag htag => htag).append
    apply quotedInTags_of_forall_ne
    intro item hitem
    obtain ⟨span, -, rfl⟩ := List.mem_map.1 hitem
    exact fun hsame => Layer.noConfusion hsame

end Roles

/-- A search of a part of a text finds what a search of its characters by themselves finds,
moved to where the part begins; the matches lie in the part, apart and in text order, and
depend on no other characters.  So the markup of a text is nested, whichever pattern finds
which layer. -/
theorem findIn_isolated (pattern : Pattern) (roles : Roles) (text : List Char) (part : Span) :
    let start := min part.start text.length
    let stop := min part.stop text.length
    pattern.findIn text part =
        (pattern.findAll ((text.take stop).drop start)).map (·.shift start) ∧
      pattern.Exhausts (text.take stop) start (pattern.findIn text part) ∧
      (∀ span ∈ pattern.findIn text part,
        start ≤ span.start ∧ 0 < span.length ∧ span.stop ≤ stop) ∧
      (pattern.findIn text part).Pairwise (fun left right => left.stop ≤ right.start) ∧
      (∀ other : List Char,
        (∀ place : Nat, part.contains place → other[place]? = text[place]?) →
          pattern.findIn other part = pattern.findIn text part) ∧
      Nested text.length (roles.classify text) := by
  intro start stop
  have hexhausts := pattern.exhausts_findIn text part
  refine ⟨pattern.findIn_eq text part, hexhausts, ?_, hexhausts.ordered, ?_,
    roles.nested_classify text⟩
  · intro span hspan
    exact Pattern.within_of_mem_findIn hspan
  · intro other hother
    exact Pattern.findIn_congr hother

/-- The second comment is closed behind the part only, so there is none inside of it. -/
example : Pattern.comment.findIn "<!--a--><!--b-->".toList ⟨0, 15⟩ = [⟨0, 8⟩] := by decide

end MarkupEditor
