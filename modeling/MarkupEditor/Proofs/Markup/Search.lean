import MarkupEditor.Proofs.Markup.Precedence

/-!
# What a search finds

A search takes the match that begins at the offset it has come to, and goes on behind it.
So its matches lie apart and in text order, and outside of them no match begins.  Only one
list of spans is like that.
-/

namespace MarkupEditor

namespace Pattern

variable {pattern : Pattern} {text : List Char}

theorem closing?_bound {index : Nat} (h : closing? text = some index) :
    index + 3 ≤ text.length := by
  induction text generalizing index with
  | nil => simp [closing?] at h
  | cons c rest ih =>
      rw [closing?.eq_def] at h
      split at h
      · next heq => cases heq
      · next later heq =>
        obtain rfl : 0 = index := Option.some.inj h
        simp [heq]
      · next first later _ heq =>
        obtain ⟨rfl, rfl⟩ := List.cons.inj heq
        obtain ⟨found, hfound, rfl⟩ := Option.map_eq_some_iff.1 h
        have hle := ih hfound
        rw [List.length_cons]
        omega

/-- A match has characters, all of them from the text. -/
theorem matchLength?_bounds {length : Nat} (h : pattern.matchLength? text = some length) :
    0 < length ∧ length ≤ text.length := by
  cases pattern with
  | tag =>
      rw [matchLength?, tagLength?.eq_def] at h
      split at h
      · next rest =>
        split at h
        · next index hindex =>
          obtain rfl : index + 3 = length := Option.some.inj h
          obtain ⟨hlt, -⟩ := List.findIdx?_eq_some_iff_getElem.1 hindex
          rw [List.length_cons]
          omega
        · cases h
      · cases h
  | quoted =>
      rw [matchLength?, quotedLength?.eq_def] at h
      split at h
      · next rest =>
        split at h
        · next index hindex =>
          obtain ⟨hlt, -⟩ := List.findIdx?_eq_some_iff_getElem.1 hindex
          split at h
          · obtain rfl : index + 2 = length := Option.some.inj h
            rw [List.length_cons]
            omega
          · cases h
        · cases h
      · cases h
  | comment =>
      rw [matchLength?, commentLength?.eq_def] at h
      split at h
      · next c rest =>
        obtain ⟨index, hindex, rfl⟩ := Option.map_eq_some_iff.1 h
        have hle := closing?_bound hindex
        simp only [List.length_cons]
        omega
      · cases h

/-- The places inside of a span are those of the text behind its start. -/
theorem forall_inside_drop_iff (text : List Char) (span : Span) (IsInner : Option Char → Prop) :
    (∀ place, 0 < place → place + 1 < (Span.mk 0 span.length).stop →
        IsInner (text.drop span.start)[place]?) ↔
      ∀ place, span.start < place → place + 1 < span.stop → IsInner text[place]? := by
  simp only [Span.stop, Nat.zero_add, List.getElem?_drop]
  constructor
  · intro h place hplace hbefore
    obtain ⟨inner, rfl⟩ := Nat.exists_eq_add_of_lt hplace
    exact h (inner + 1) (Nat.succ_pos inner) (by omega)
  · intro h place hplace hbefore
    exact h (span.start + place) (by omega) (by omega)

theorem getElem?_drop_last (text : List Char) {span : Span} (h : 0 < span.length) :
    (text.drop span.start)[(Span.mk 0 span.length).stop - 1]? = text[span.stop - 1]? := by
  have hlast : span.start + ((Span.mk 0 span.length).stop - 1) = span.stop - 1 := by
    simp only [Span.stop]
    omega
  rw [List.getElem?_drop, hlast]

theorem matchLength?_nil (pattern : Pattern) : pattern.matchLength? [] = none := by
  cases pattern <;> rfl

/-- What a search takes is the match that begins there. -/
theorem matchLength?_of_mem_scan {offset skip : Nat} {found : Match}
    (h : found ∈ pattern.scan offset skip text) :
    pattern.matchLength? (text.drop (found.start - offset)) = some found.text.length := by
  induction text generalizing offset skip with
  | nil => cases skip <;> cases h
  | cons c rest ih =>
      have hlater {skip : Nat} (h : found ∈ pattern.scan (offset + 1) skip rest) :
          pattern.matchLength? ((c :: rest).drop (found.start - offset)) =
            some found.text.length := by
        have hstart : found.start - offset = found.start - (offset + 1) + 1 := by
          have hle := (scan_within h).1
          omega
        rw [hstart, List.drop_succ_cons]
        exact ih h
      cases skip with
      | succ skip => exact hlater h
      | zero =>
          cases hmatch : pattern.matchLength? (c :: rest) with
          | none =>
              rw [scan_cons_of_eq_none hmatch] at h
              exact hlater h
          | some length =>
              rw [scan, hmatch] at h
              rcases List.mem_cons.1 h with rfl | h
              · rw [Nat.sub_self, List.drop_zero, hmatch,
                  List.length_take_of_le (matchLength?_bounds hmatch).2]
              · exact hlater h

/-- The search passes every offset that none of its matches covers, and finds nothing
there. -/
theorem matchLength?_eq_none_of_scan {offset skip place : Nat} (hplace : offset + skip ≤ place)
    (h : ∀ found ∈ pattern.scan offset skip text, ¬ found.span.contains place) :
    pattern.matchLength? (text.drop (place - offset)) = none := by
  induction text generalizing offset skip with
  | nil => rw [List.drop_nil, matchLength?_nil]
  | cons c rest ih =>
      have hlater {skip : Nat} (hplace : offset + 1 + skip ≤ place)
          (h : ∀ found ∈ pattern.scan (offset + 1) skip rest, ¬ found.span.contains place) :
          pattern.matchLength? ((c :: rest).drop (place - offset)) = none := by
        have hstart : place - offset = place - (offset + 1) + 1 := by omega
        rw [hstart, List.drop_succ_cons]
        exact ih hplace h
      cases skip with
      | succ skip => exact hlater (by omega) h
      | zero =>
          cases hmatch : pattern.matchLength? (c :: rest) with
          | none =>
              rw [scan_cons_of_eq_none hmatch] at h
              by_cases hhere : place = offset
              · rwa [hhere, Nat.sub_self]
              · exact hlater (by omega) h
          | some length =>
              obtain ⟨hpos, hle⟩ := matchLength?_bounds hmatch
              rw [scan, hmatch] at h
              have houtside : ¬ (offset ≤ place ∧ place < offset + length) := by
                have hfirst := h _ List.mem_cons_self
                rwa [contains_iff, Match.span, Span.stop, List.length_take_of_le hle] at hfirst
              exact hlater (by omega) fun found hfound => h found (List.mem_cons_of_mem _ hfound)

/-- A search that has come to an offset where no match begins goes on at the next one. -/
theorem scan_drop_of_eq_none {place : Nat} (hplace : place < text.length)
    (h : pattern.matchLength? (text.drop place) = none) :
    pattern.scan place 0 (text.drop place) =
      pattern.scan (place + 1) 0 (text.drop (place + 1)) := by
  rw [List.drop_eq_getElem_cons hplace] at h ⊢
  exact scan_cons_of_eq_none h

/-- Spans of matches in text order from an offset on, with no match that begins outside of
them. -/
structure Exhausts (pattern : Pattern) (text : List Char) (start : Nat) (spans : List Span) :
    Prop where
  start_le : ∀ span ∈ spans, start ≤ span.start
  ordered : spans.Pairwise fun left right => left.stop ≤ right.start
  matched : ∀ span ∈ spans, pattern.matchLength? (text.drop span.start) = some span.length
  complete : ∀ place, start ≤ place → (∀ span ∈ spans, ¬ span.contains place) →
    pattern.matchLength? (text.drop place) = none

theorem exhausts_findAll (pattern : Pattern) (text : List Char) :
    pattern.Exhausts text 0 (pattern.findAll text) where
  start_le span _ := Nat.zero_le span.start
  ordered := List.pairwise_map.2 (pattern.pairwise_search text)
  matched := by
    intro span hspan
    obtain ⟨found, hfound, rfl⟩ := List.mem_map.1 hspan
    exact matchLength?_of_mem_scan hfound
  complete := by
    intro place _ houtside
    have hpassed : ∀ found ∈ pattern.scan 0 0 text, ¬ found.span.contains place :=
      fun found hfound => houtside found.span (List.mem_map_of_mem hfound)
    exact matchLength?_eq_none_of_scan (Nat.zero_le place) hpassed

namespace Exhausts

variable {start : Nat} {span span' : Span} {rest rest' spans spans' : List Span}

/-- Behind the first span the others are all there is. -/
theorem tail (h : pattern.Exhausts text start (span :: rest)) :
    pattern.Exhausts text span.stop rest where
  start_le := (List.pairwise_cons.1 h.ordered).1
  ordered := (List.pairwise_cons.1 h.ordered).2
  matched other hother := h.matched other (List.mem_cons_of_mem span hother)
  complete := by
    intro place hplace houtside
    have hstart : start ≤ span.start := h.start_le span List.mem_cons_self
    have hstop : span.start ≤ span.stop := Nat.le_add_right ..
    apply h.complete place (by omega)
    intro other hother
    rcases List.mem_cons.1 hother with rfl | hother
    · rw [contains_iff]
      omega
    · exact houtside other hother

/-- Before the first span no match begins, so no other list can start there. -/
theorem start_le_of_cons (h : pattern.Exhausts text start (span :: rest))
    (h' : pattern.Exhausts text start (span' :: rest')) : span.start ≤ span'.start := by
  by_contra hlt
  have houtside : ∀ other ∈ span :: rest, ¬ other.contains span'.start := by
    intro other hother
    rw [contains_iff]
    rcases List.mem_cons.1 hother with rfl | hother
    · omega
    · have hstart := h.tail.start_le other hother
      rw [Span.stop] at hstart
      omega
  have hnone := h.complete span'.start (h'.start_le span' List.mem_cons_self) houtside
  have hsome := h'.matched span' List.mem_cons_self
  rw [hnone] at hsome
  cases hsome

theorem not_nil_of_cons (h : pattern.Exhausts text start (span :: rest)) :
    ¬ pattern.Exhausts text start [] := by
  intro hnil
  have hnone := hnil.complete span.start (h.start_le span List.mem_cons_self)
    fun other hother => absurd hother List.not_mem_nil
  have hsome := h.matched span List.mem_cons_self
  rw [hnone] at hsome
  cases hsome

/-- The induction is on the spans of one side; the first spans of both sides are the same,
and the others are all there is behind them. -/
theorem unique (h : pattern.Exhausts text start spans)
    (h' : pattern.Exhausts text start spans') : spans = spans' := by
  induction spans generalizing start spans' with
  | nil =>
      cases spans' with
      | nil => rfl
      | cons span' rest' => exact absurd h h'.not_nil_of_cons
  | cons span rest ih =>
      cases spans' with
      | nil => exact absurd h' h.not_nil_of_cons
      | cons span' rest' =>
          have hstart : span.start = span'.start :=
            Nat.le_antisymm (h.start_le_of_cons h') (h'.start_le_of_cons h)
          have hlength : span.length = span'.length := by
            apply Option.some.inj
            rw [← h.matched span List.mem_cons_self, ← h'.matched span' List.mem_cons_self, hstart]
          have hspan : span = span' := by
            calc
              span = ⟨span.start, span.length⟩ := rfl
              _ = ⟨span'.start, span'.length⟩ := by rw [hstart, hlength]
          subst hspan
          rw [ih h.tail h'.tail]

end Exhausts

/-- The spans of all matches are the only list of their kind. -/
theorem findAll_eq_iff (spans : List Span) :
    pattern.findAll text = spans ↔ pattern.Exhausts text 0 spans := by
  constructor
  · rintro rfl
    exact exhausts_findAll pattern text
  · intro h
    exact (exhausts_findAll pattern text).unique h

/-- No match begins at an offset if no span from there on is one. -/
theorem matchLength?_eq_none_iff {IsMatch : Span → Prop} {place : Nat} {opensNone : Prop}
    (hmatch : ∀ span, pattern.matchLength? (text.drop span.start) = some span.length ↔
      IsMatch span)
    (hnone : opensNone ↔ ∀ length, ¬ IsMatch ⟨place, length⟩) :
    pattern.matchLength? (text.drop place) = none ↔ opensNone := by
  rw [hnone, Option.eq_none_iff_forall_ne_some]
  apply forall_congr'
  intro length
  exact not_congr (hmatch ⟨place, length⟩)

/-- Given which spans are matches, and at which offsets none begins, a search finds the one
list of matches that lie apart in text order and leave none out. -/
theorem findAll_eq_iff_pairwise {IsMatch : Span → Prop} {OpensNone : Nat → Prop}
    (hmatch : ∀ span, pattern.matchLength? (text.drop span.start) = some span.length ↔
      IsMatch span)
    (hnone : ∀ place, OpensNone place ↔ ∀ length, ¬ IsMatch ⟨place, length⟩)
    (spans : List Span) :
    pattern.findAll text = spans ↔
      spans.Pairwise (fun left right => left.stop ≤ right.start) ∧
        (∀ span ∈ spans, IsMatch span) ∧
        ∀ place : Nat, (∀ span ∈ spans, ¬ span.contains place) → OpensNone place := by
  have hfree (place : Nat) :
      pattern.matchLength? (text.drop place) = none ↔ OpensNone place :=
    matchLength?_eq_none_iff hmatch (hnone place)
  rw [findAll_eq_iff]
  constructor
  · intro h
    refine ⟨h.ordered, ?_, ?_⟩
    · intro span hspan
      exact (hmatch span).1 (h.matched span hspan)
    · intro place houtside
      exact (hfree place).1 (h.complete place (Nat.zero_le place) houtside)
  · rintro ⟨hordered, hspans, hcomplete⟩
    constructor
    · intro span _
      exact Nat.zero_le span.start
    · exact hordered
    · intro span hspan
      exact (hmatch span).2 (hspans span hspan)
    · intro place _ houtside
      exact (hfree place).2 (hcomplete place houtside)

end Pattern

end MarkupEditor
