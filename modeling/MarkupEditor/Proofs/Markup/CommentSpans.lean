import Mathlib.Data.Nat.Find
import MarkupEditor.Proofs.Markup.Search

/-!
# Which spans are comments

A comment is its opening, then one character or more, and then the first closing behind
the first of these characters.  So what a comment holds may itself begin with a closing,
and one with nothing in it goes on until a later closing.  Searching a text for comments
gives the one list of comments that lie apart in text order, such that no comment begins
outside of them.
-/

namespace MarkupEditor

namespace Pattern

/-- The opening of a comment stands at an offset. -/
def OpensComment (text : List Char) (place : Nat) : Prop :=
  ['<', '!', '-', '-'] <+: text.drop place

/-- The closing of a comment stands at an offset. -/
def ClosesComment (text : List Char) (place : Nat) : Prop :=
  ['-', '-', '>'] <+: text.drop place

instance (text : List Char) (place : Nat) : Decidable (ClosesComment text place) :=
  inferInstanceAs (Decidable (['-', '-', '>'] <+: text.drop place))

/-- The characters of a span are those of a comment. -/
structure IsComment (text : List Char) (span : Span) : Prop where
  length : 8 ≤ span.length
  opening : OpensComment text span.start
  closing : ClosesComment text (span.stop - 3)
  first : ∀ place, span.start + 5 ≤ place → place < span.stop - 3 → ¬ ClosesComment text place

/-- If a comment is opened at an offset, no closing stands behind its first character. -/
def OpensNoComment (text : List Char) (place : Nat) : Prop :=
  OpensComment text place → ∀ later, place + 5 ≤ later → ¬ ClosesComment text later

variable {text : List Char}

theorem opensComment_drop {start place : Nat} :
    OpensComment (text.drop start) place ↔ OpensComment text (start + place) := by
  rw [OpensComment, OpensComment, List.drop_drop]

theorem closesComment_drop {start place : Nat} :
    ClosesComment (text.drop start) place ↔ ClosesComment text (start + place) := by
  rw [ClosesComment, ClosesComment, List.drop_drop]

/-- An opening without a comment is one that nothing closes. -/
theorem opensNoComment_iff {place : Nat} :
    OpensNoComment text place ↔ ∀ length, ¬ IsComment text ⟨place, length⟩ := by
  constructor
  · intro h length hcomment
    have hlength : 8 ≤ length := hcomment.length
    have hclosing : ClosesComment text (place + length - 3) := hcomment.closing
    exact h hcomment.opening (place + length - 3) (by omega) hclosing
  · intro h hopening later hlater hclosing
    -- The first closing behind the first character makes a comment with the opening.
    have hsome : ∃ later, place + 5 ≤ later ∧ ClosesComment text later := ⟨later, hlater, hclosing⟩
    obtain ⟨hbehind, hcloses⟩ := Nat.find_spec hsome
    have hstop : place + (Nat.find hsome - place + 3) - 3 = Nat.find hsome := by omega
    apply h (Nat.find hsome - place + 3)
    constructor
    · simp only
      omega
    · exact hopening
    · rw [Span.stop, hstop]
      exact hcloses
    · intro earlier hearlier hbefore hfound
      rw [Span.stop, hstop] at hbefore
      exact Nat.find_min hsome hbefore ⟨hearlier, hfound⟩

theorem isComment_drop {span : Span} :
    IsComment (text.drop span.start) ⟨0, span.length⟩ ↔ IsComment text span := by
  have hopening : OpensComment (text.drop span.start) 0 ↔ OpensComment text span.start :=
    opensComment_drop
  have hclosing (hlength : 8 ≤ span.length) :
      ClosesComment (text.drop span.start) ((Span.mk 0 span.length).stop - 3) ↔
        ClosesComment text (span.stop - 3) := by
    have hstop : span.start + ((Span.mk 0 span.length).stop - 3) = span.stop - 3 := by
      simp only [Span.stop]
      omega
    rw [closesComment_drop, hstop]
  constructor
  · intro h
    refine ⟨h.length, hopening.1 h.opening, (hclosing h.length).1 h.closing, ?_⟩
    intro place hplace hbefore hfound
    obtain ⟨inner, rfl⟩ := Nat.exists_eq_add_of_le (Nat.le_of_add_right_le hplace)
    apply h.first inner
    · simp only
      omega
    · simp only [Span.stop] at hbefore ⊢
      omega
    · exact closesComment_drop.2 hfound
  · intro h
    refine ⟨h.length, hopening.2 h.opening, (hclosing h.length).2 h.closing, ?_⟩
    intro place hplace hbefore hfound
    apply h.first (span.start + place)
    · simp only at hplace
      omega
    · simp only [Span.stop] at hbefore ⊢
      omega
    · exact closesComment_drop.1 hfound

/-! ### The first closing -/

theorem not_closesComment_nil (place : Nat) : ¬ ClosesComment [] place := by
  simp [ClosesComment]

theorem closesComment_cons_succ {c : Char} {rest : List Char} {place : Nat} :
    ClosesComment (c :: rest) (place + 1) ↔ ClosesComment rest place := Iff.rfl

/-- A closing that stands at the beginning is the first one. -/
theorem closing?_of_closes (h : ClosesComment text 0) : closing? text = some 0 := by
  obtain ⟨rest, rfl⟩ := h
  rfl

theorem closing?_cons_of_not_closes {c : Char} {rest : List Char}
    (h : ¬ ClosesComment (c :: rest) 0) :
    closing? (c :: rest) = (closing? rest).map (· + 1) := by
  rw [closing?.eq_def]
  split
  · next heq => cases heq
  · next later heq => exact absurd ⟨later, heq.symm⟩ h
  · next heq =>
    obtain ⟨rfl, rfl⟩ := List.cons.inj heq
    rfl

theorem closing?_eq_some_iff {index : Nat} :
    closing? text = some index ↔
      ClosesComment text index ∧ ∀ earlier < index, ¬ ClosesComment text earlier := by
  induction text generalizing index with
  | nil => simp [closing?, not_closesComment_nil]
  | cons c rest ih =>
      by_cases hhere : ClosesComment (c :: rest) 0
      · rw [closing?_of_closes hhere]
        constructor
        · rintro ⟨⟩
          exact ⟨hhere, fun earlier hearlier => absurd hearlier (Nat.not_lt_zero earlier)⟩
        · rintro ⟨-, hfirst⟩
          cases index with
          | zero => rfl
          | succ index => exact absurd hhere (hfirst 0 (Nat.succ_pos index))
      · rw [closing?_cons_of_not_closes hhere]
        cases index with
        | zero => simp [hhere]
        | succ index =>
            rw [closesComment_cons_succ, Nat.forall_lt_succ_left']
            simp [ih, hhere, closesComment_cons_succ]

/-- The first closing behind the first character of the body ends the comment. -/
theorem isComment_opening_append_iff {c : Char} {rest : List Char} {index : Nat} :
    IsComment (['<', '!', '-', '-'] ++ c :: rest) ⟨0, index + 8⟩ ↔ closing? rest = some index := by
  have hat (place : Nat) :
      ClosesComment (['<', '!', '-', '-'] ++ c :: rest) (place + 5) ↔ ClosesComment rest place :=
    Iff.rfl
  have hstop : (Span.mk 0 (index + 8)).stop - 3 = index + 5 := by
    simp only [Span.stop]
    omega
  rw [closing?_eq_some_iff]
  constructor
  · intro h
    refine ⟨(hat index).1 (hstop ▸ h.closing), ?_⟩
    intro earlier hearlier hfound
    apply h.first (earlier + 5)
    · simp only
      omega
    · omega
    · exact (hat earlier).2 hfound
  · rintro ⟨hcloses, hearlier⟩
    refine ⟨Nat.le_add_left 8 index, ⟨c :: rest, rfl⟩, ?_, ?_⟩
    · rw [hstop]
      exact (hat index).2 hcloses
    · intro place hplace hbefore hfound
      obtain ⟨inner, rfl⟩ := Nat.exists_eq_add_of_le' (Nat.le_of_add_left_le hplace)
      exact hearlier inner (by omega) ((hat inner).1 hfound)

theorem commentLength?_eq_some_iff {length : Nat} :
    commentLength? text = some length ↔ IsComment text ⟨0, length⟩ := by
  constructor
  · intro h
    rw [commentLength?.eq_def] at h
    split at h
    · next c rest =>
      obtain ⟨index, hindex, rfl⟩ := Option.map_eq_some_iff.1 h
      exact isComment_opening_append_iff.2 hindex
    · cases h
  · intro h
    obtain ⟨index, rfl⟩ := Nat.exists_eq_add_of_le' h.length
    obtain ⟨body, rfl⟩ := h.opening
    cases body with
    | nil => exact absurd h.closing (by simp [ClosesComment, Span.stop])
    | cons c rest =>
        change (closing? rest).map (· + 8) = some (index + 8)
        rw [isComment_opening_append_iff.1 h]
        rfl

theorem matchLength?_comment_eq_some_iff (span : Span) :
    comment.matchLength? (text.drop span.start) = some span.length ↔ IsComment text span := by
  rw [matchLength?, commentLength?_eq_some_iff, isComment_drop]

/-- A search for comments gives a list of spans exactly if these are comments, lie apart in
text order, and leave no comment out. -/
theorem findAll_comment_eq_iff (text : List Char) (spans : List Span) :
    comment.findAll text = spans ↔
      spans.Pairwise (fun left right => left.stop ≤ right.start) ∧
        (∀ span ∈ spans, IsComment text span) ∧
        ∀ place : Nat, (∀ span ∈ spans, ¬ span.contains place) → OpensNoComment text place :=
  findAll_eq_iff_pairwise matchLength?_comment_eq_some_iff (fun _ => opensNoComment_iff) spans

/-- A closing right behind the opening is part of the body; without a later one there is no
comment. -/
example : comment.findAll "<!----> x --><!---->".toList = [⟨0, 13⟩] := by decide

end Pattern

end MarkupEditor
