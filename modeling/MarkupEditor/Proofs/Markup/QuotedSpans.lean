import Mathlib.Data.Nat.Find
import MarkupEditor.Proofs.Markup.Search

/-!
# Which spans are quoted values

A quoted value is a double quote, then characters that are neither double quotes nor line
feeds, if any, and then another double quote.  Searching a text for quoted values gives
the one list of them that lie apart in text order, such that none begins outside of them.
A quote that is alone in the rest of its line is passed over like any other character.
-/

namespace MarkupEditor

namespace Pattern

/-- The characters of a span are those of a quoted value. -/
structure IsQuoted (text : List Char) (span : Span) : Prop where
  length : 2 ≤ span.length
  opening : text[span.start]? = some '"'
  inside : ∀ place, span.start < place → place + 1 < span.stop →
    text[place]? ≠ some '"' ∧ text[place]? ≠ some '\n'
  closing : text[span.stop - 1]? = some '"'

/-- If there is a double quote at an offset, a line feed stands before any later one. -/
def OpensNoQuoted (text : List Char) (place : Nat) : Prop :=
  text[place]? = some '"' → ∀ later, place < later → text[later]? = some '"' →
    ∃ between, place < between ∧ between < later ∧ text[between]? = some '\n'

variable {text : List Char}

/-- A quote that opens nothing has no other one behind it in its line. -/
theorem opensNoQuoted_iff {place : Nat} :
    OpensNoQuoted text place ↔ ∀ length, ¬ IsQuoted text ⟨place, length⟩ := by
  constructor
  · intro h length hquoted
    have hlength : 2 ≤ length := hquoted.length
    have hclosing : text[place + length - 1]? = some '"' := hquoted.closing
    obtain ⟨between, hbehind, hbefore, hfeed⟩ :=
      h hquoted.opening (place + length - 1) (by omega) hclosing
    have hinside := hquoted.inside between hbehind (by simp only [Span.stop]; omega)
    exact hinside.2 hfeed
  · intro h hopening later hlater hquote
    by_contra hline
    -- The first quote behind the opening makes a quoted value with it.
    have hsome : ∃ later, place < later ∧ text[later]? = some '"' := ⟨later, hlater, hquote⟩
    obtain ⟨hbehind, hclosing⟩ := Nat.find_spec hsome
    have hfirst : Nat.find hsome ≤ later := Nat.find_min' hsome ⟨hlater, hquote⟩
    have hstop : place + (Nat.find hsome - place + 1) - 1 = Nat.find hsome := by omega
    apply h (Nat.find hsome - place + 1)
    constructor
    · simp only
      omega
    · exact hopening
    · intro inner hinner hbefore
      simp only [Span.stop] at hinner hbefore
      constructor
      · intro hinnerQuote
        exact Nat.find_min hsome (by omega) ⟨hinner, hinnerQuote⟩
      · intro hfeed
        exact hline ⟨inner, hinner, by omega, hfeed⟩
    · rw [Span.stop, hstop]
      exact hclosing

theorem isQuoted_drop {span : Span} :
    IsQuoted (text.drop span.start) ⟨0, span.length⟩ ↔ IsQuoted text span := by
  have hopening : (text.drop span.start)[0]? = text[span.start]? := List.getElem?_drop
  have hinside :=
    forall_inside_drop_iff text span fun inner => inner ≠ some '"' ∧ inner ≠ some '\n'
  have hclosing (hlength : 2 ≤ span.length) :=
    getElem?_drop_last text (Nat.lt_of_lt_of_le (Nat.succ_pos 1) hlength)
  constructor
  · intro h
    exact ⟨h.length, hopening ▸ h.opening, hinside.1 h.inside, hclosing h.length ▸ h.closing⟩
  · intro h
    exact ⟨h.length, hopening ▸ h.opening, hinside.2 h.inside, hclosing h.length ▸ h.closing⟩

/-- The first double quote or line feed behind the opening ends the value, if it is a quote. -/
theorem isQuoted_cons_iff {c : Char} {rest : List Char} {index : Nat} :
    IsQuoted (c :: rest) ⟨0, index + 2⟩ ↔
      c = '"' ∧ (rest.findIdx? fun c => c == '"' || c == '\n') = some index ∧
        rest[index]? = some '"' := by
  rw [List.findIdx?_eq_some_iff_getElem]
  constructor
  · intro h
    have hclosing : rest[index]? = some '"' := by
      simpa [Span.stop] using h.closing
    obtain ⟨hlt, hquote⟩ := List.getElem?_eq_some_iff.1 hclosing
    refine ⟨Option.some.inj h.opening, ⟨hlt, by simp [hquote], ?_⟩, hclosing⟩
    intro earlier hearlier hends
    have hinside : rest[earlier]? ≠ some '"' ∧ rest[earlier]? ≠ some '\n' :=
      h.inside (earlier + 1) (Nat.succ_pos earlier) (by simp only [Span.stop]; omega)
    rw [List.getElem?_eq_getElem (by omega)] at hinside
    rcases Bool.or_eq_true_iff.1 hends with hquote | hfeed
    · exact hinside.1 (congrArg some (beq_iff_eq.1 hquote))
    · exact hinside.2 (congrArg some (beq_iff_eq.1 hfeed))
  · rintro ⟨rfl, ⟨hlt, -, hearlier⟩, hclosing⟩
    refine ⟨Nat.le_add_left 2 index, rfl, ?_, ?_⟩
    · intro place hplace hbefore
      obtain ⟨inner, rfl⟩ := Nat.exists_eq_succ_of_ne_zero (Nat.ne_of_gt hplace)
      simp only [Span.stop] at hbefore
      have hends := hearlier inner (by omega)
      rw [List.getElem?_cons_succ, List.getElem?_eq_getElem (by omega)]
      simpa using hends
    · simpa [Span.stop] using hclosing

theorem quotedLength?_eq_some_iff {length : Nat} :
    quotedLength? text = some length ↔ IsQuoted text ⟨0, length⟩ := by
  constructor
  · intro h
    rw [quotedLength?.eq_def] at h
    split at h
    · next rest =>
      split at h
      · next index hindex =>
        split at h
        · next hquote =>
          obtain rfl : index + 2 = length := Option.some.inj h
          exact isQuoted_cons_iff.2 ⟨rfl, hindex, hquote⟩
        · cases h
      · cases h
    · cases h
  · intro h
    obtain ⟨index, rfl⟩ := Nat.exists_eq_add_of_le' h.length
    cases text with
    | nil => cases h.opening
    | cons c rest =>
        obtain ⟨rfl, hindex, hquote⟩ := isQuoted_cons_iff.1 h
        simp [quotedLength?, hindex, hquote]

theorem matchLength?_quoted_eq_some_iff (span : Span) :
    quoted.matchLength? (text.drop span.start) = some span.length ↔ IsQuoted text span := by
  rw [matchLength?, quotedLength?_eq_some_iff, isQuoted_drop]

/-- A search that comes to a quote alone in the rest of its line goes on at the character
behind it. -/
theorem scan_quoted_drop {place : Nat} (hquote : text[place]? = some '"')
    (h : OpensNoQuoted text place) :
    quoted.scan place 0 (text.drop place) = quoted.scan (place + 1) 0 (text.drop (place + 1)) := by
  have hplace : place < text.length := (List.getElem?_eq_some_iff.1 hquote).1
  apply scan_drop_of_eq_none hplace
  exact (matchLength?_eq_none_iff matchLength?_quoted_eq_some_iff opensNoQuoted_iff).2 h

/-- A search for quoted values gives a list of spans exactly if these are quoted values, lie
apart in text order, and leave none out.  A quote with a line feed before the next one is
passed over by itself. -/
theorem findAll_quoted_eq_iff (text : List Char) :
    (∀ spans : List Span, quoted.findAll text = spans ↔
      spans.Pairwise (fun left right => left.stop ≤ right.start) ∧
        (∀ span ∈ spans, IsQuoted text span) ∧
        ∀ place : Nat, (∀ span ∈ spans, ¬ span.contains place) → OpensNoQuoted text place) ∧
      ∀ place : Nat, text[place]? = some '"' → OpensNoQuoted text place →
        quoted.scan place 0 (text.drop place) =
          quoted.scan (place + 1) 0 (text.drop (place + 1)) := by
  constructor
  · exact findAll_eq_iff_pairwise matchLength?_quoted_eq_some_iff fun _ => opensNoQuoted_iff
  · intro place hquote hline
    exact scan_quoted_drop hquote hline

/-- The quote in the first line is alone there; those of the second line pair up from left
to right. -/
example : quoted.findAll "\"a\n\"\"\"b\"".toList = [⟨3, 2⟩, ⟨5, 3⟩] := by decide

end Pattern

end MarkupEditor
