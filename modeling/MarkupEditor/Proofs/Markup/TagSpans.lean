import Mathlib.Data.Nat.Find
import MarkupEditor.Proofs.Markup.Search

/-!
# Which spans are tags

A tag is `<`, then one character or more that are not `>`, and then `>`.  Searching a text
for tags gives the one list of tags that lie apart in text order, such that no tag begins
outside of them.
-/

namespace MarkupEditor

namespace Pattern

/-- The characters of a span are those of a tag. -/
structure IsTag (text : List Char) (span : Span) : Prop where
  length : 3 ≤ span.length
  opening : text[span.start]? = some '<'
  inside : ∀ place, span.start < place → place + 1 < span.stop → text[place]? ≠ some '>'
  closing : text[span.stop - 1]? = some '>'

/-- If there is `<` at an offset, it is the last character, or `>` follows it at once, or
there is no `>` behind it at all. -/
def OpensNoTag (text : List Char) (place : Nat) : Prop :=
  text[place]? = some '<' → place + 1 = text.length ∨ text[place + 1]? = some '>' ∨
    ∀ later, place < later → text[later]? ≠ some '>'

variable {text : List Char}

/-- An offset at which no tag begins fails to open one for one of three reasons. -/
theorem opensNoTag_iff {place : Nat} :
    OpensNoTag text place ↔ ∀ length, ¬ IsTag text ⟨place, length⟩ := by
  constructor
  · intro h length htag
    have hlength : 3 ≤ length := htag.length
    have hclosing : text[place + length - 1]? = some '>' := htag.closing
    rcases h htag.opening with hlast | hnext | hopen
    · have hlt := (List.getElem?_eq_some_iff.1 hclosing).1
      omega
    · exact htag.inside (place + 1) (by simp) (by simp [Span.stop]; omega) hnext
    · exact hopen (place + length - 1) (by omega) hclosing
  · intro h hopening
    by_contra hcloses
    simp only [not_or, not_forall, not_not] at hcloses
    obtain ⟨-, hnext, hlater⟩ := hcloses
    -- The first closing behind the opening makes a tag with it.
    have hsome : ∃ later, place < later ∧ text[later]? = some '>' := by
      obtain ⟨later, hbehind, hclosing⟩ := hlater
      exact ⟨later, hbehind, hclosing⟩
    obtain ⟨hbehind, hclosing⟩ := Nat.find_spec hsome
    have hfirst : Nat.find hsome ≠ place + 1 := by
      intro heq
      rw [heq] at hclosing
      exact hnext hclosing
    have hstop : place + (Nat.find hsome - place + 1) - 1 = Nat.find hsome := by omega
    apply h (Nat.find hsome - place + 1)
    constructor
    · simp only
      omega
    · exact hopening
    · intro inner hinner hbefore hgreater
      simp only [Span.stop] at hinner hbefore
      exact Nat.find_min hsome (by omega) ⟨hinner, hgreater⟩
    · rw [Span.stop, hstop]
      exact hclosing

theorem isTag_drop {span : Span} :
    IsTag (text.drop span.start) ⟨0, span.length⟩ ↔ IsTag text span := by
  have hopening : (text.drop span.start)[0]? = text[span.start]? := List.getElem?_drop
  have hinside := forall_inside_drop_iff text span fun inner => inner ≠ some '>'
  have hclosing (hlength : 3 ≤ span.length) :=
    getElem?_drop_last text (Nat.lt_of_lt_of_le (Nat.succ_pos 2) hlength)
  constructor
  · intro h
    exact ⟨h.length, hopening ▸ h.opening, hinside.1 h.inside, hclosing h.length ▸ h.closing⟩
  · intro h
    exact ⟨h.length, hopening ▸ h.opening, hinside.2 h.inside, hclosing h.length ▸ h.closing⟩

/-- The first `>` behind the opening ends the tag, unless it follows at once. -/
theorem isTag_cons_iff {c : Char} {rest : List Char} {index : Nat} :
    IsTag (c :: rest) ⟨0, index + 3⟩ ↔
      c = '<' ∧ rest.findIdx? (· == '>') = some (index + 1) := by
  rw [List.findIdx?_eq_some_iff_getElem]
  constructor
  · intro h
    have hclosing : rest[index + 1]? = some '>' := by
      simpa [Span.stop] using h.closing
    obtain ⟨hlt, hgreater⟩ := List.getElem?_eq_some_iff.1 hclosing
    refine ⟨Option.some.inj h.opening, hlt, by simp [hgreater], ?_⟩
    intro earlier hearlier hfound
    have hinner : rest[earlier]? ≠ some '>' :=
      h.inside (earlier + 1) (Nat.succ_pos _) (by simp only [Span.stop]; omega)
    rw [List.getElem?_eq_getElem (by omega)] at hinner
    exact hinner (congrArg some (by simpa using hfound))
  · rintro ⟨rfl, hlt, hfound, hearlier⟩
    refine ⟨by simp, rfl, ?_, ?_⟩
    · intro place hplace hbefore hgreater
      obtain ⟨inner, rfl⟩ := Nat.exists_eq_succ_of_ne_zero (Nat.ne_of_gt hplace)
      simp only [Span.stop] at hbefore
      obtain ⟨hinner, hgreater⟩ := List.getElem?_eq_some_iff.1 hgreater
      exact hearlier inner (by omega) (by simpa using hgreater)
    · have hgreater : rest[index + 1] = '>' := by simpa using hfound
      simp [Span.stop, List.getElem?_eq_getElem hlt, hgreater]

theorem tagLength?_eq_some_iff {length : Nat} :
    tagLength? text = some length ↔ IsTag text ⟨0, length⟩ := by
  constructor
  · intro h
    rw [tagLength?.eq_def] at h
    split at h
    · next rest =>
      split at h
      · next index hindex =>
        obtain rfl : index + 3 = length := Option.some.inj h
        exact isTag_cons_iff.2 ⟨rfl, hindex⟩
      · cases h
    · cases h
  · intro h
    obtain ⟨index, rfl⟩ := Nat.exists_eq_add_of_le' h.length
    cases text with
    | nil => cases h.opening
    | cons c rest =>
        obtain ⟨rfl, hindex⟩ := isTag_cons_iff.1 h
        simp [tagLength?, hindex]

theorem matchLength?_tag_eq_some_iff (span : Span) :
    tag.matchLength? (text.drop span.start) = some span.length ↔ IsTag text span := by
  rw [matchLength?, tagLength?_eq_some_iff, isTag_drop]

/-- A search for tags gives a list of spans exactly if these are tags, lie apart in text
order, and leave no tag out. -/
theorem findAll_tag_eq_iff (text : List Char) (spans : List Span) :
    tag.findAll text = spans ↔
      spans.Pairwise (fun left right => left.stop ≤ right.start) ∧
        (∀ span ∈ spans, IsTag text span) ∧
        ∀ place : Nat, (∀ span ∈ spans, ¬ span.contains place) → OpensNoTag text place :=
  findAll_eq_iff_pairwise matchLength?_tag_eq_some_iff (fun _ => opensNoTag_iff) spans

/-- A second `<` belongs to the tag; `<>` and what nothing closes are no tags. -/
example : tag.findAll "<<a><><b".toList = [⟨0, 4⟩] := by decide

end Pattern

end MarkupEditor
