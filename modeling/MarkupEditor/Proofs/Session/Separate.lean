import MarkupEditor.Proofs.Session.Replacement

/-!
# Replacements of separate spans

Where two spans do not touch, the characters of both can be replaced in either order.  The
text does not depend on it, and neither do the attributes that plain text takes over: these
are found beside the span that is replaced, and never inside of the other one.  What is
recorded of the two replacements is the same span around both.
-/

namespace MarkupEditor

open RunList

namespace Span

/-- Puts other items in the place of a span. -/
def replaced {α : Type} (span : Span) (part items : List α) : List α :=
  items.take span.start ++ part ++ items.drop span.stop

/-- A span, as it lies after another one before it has been given some length. -/
def moved (span earlier : Span) (length : Nat) : Span :=
  ⟨span.start + length - earlier.length, span.length⟩

/-- Puts other items in the places of two spans. -/
def replacedBoth {α : Type} (left right : Span) (part part' items : List α) : List α :=
  items.take left.start ++ part ++ (items.take right.start).drop left.stop ++ part' ++
    items.drop right.stop

variable {left right : Span}

theorem moved_start (h : left.stop ≤ right.start) (length : Nat) :
    (right.moved left length).start = left.start + length + (right.start - left.stop) := by
  simp only [stop] at h
  simp only [moved, stop]
  omega

variable {α : Type} {items : List α}

theorem length_replaced {span : Span} (h : span.stop ≤ items.length) (part : List α) :
    (span.replaced part items).length = span.start + part.length + (items.length - span.stop) := by
  simp only [stop] at h
  rw [replaced, List.length_append, List.length_append, List.length_take_of_le (by omega),
    List.length_drop]

theorem replaced_replaced_before (h : left.stop ≤ right.start) (hright : right.stop ≤ items.length)
    (part part' : List α) :
    left.replaced part (right.replaced part' items) = left.replacedBoth right part part' items := by
  simp only [stop] at h hright
  have hlength : (items.take right.start).length = right.start :=
    List.length_take_of_le (by omega)
  rw [replaced, replaced, replacedBoth, List.append_assoc (items.take right.start),
    List.take_append_of_le_length (by omega),
    List.take_take, Nat.min_eq_left (by omega),
    List.drop_append_of_le_length (by simp only [stop]; omega)]
  simp only [List.append_assoc]

theorem replaced_replaced_behind (h : left.stop ≤ right.start) (hright : right.stop ≤ items.length)
    (part part' : List α) :
    (right.moved left part.length).replaced part' (left.replaced part items) =
      left.replacedBoth right part part' items := by
  have hlength : (items.take left.start ++ part).length = left.start + part.length := by
    simp only [stop] at h hright
    rw [List.length_append, List.length_take_of_le (by omega)]
  have hstart : (right.moved left part.length).start =
      (items.take left.start ++ part).length + (right.start - left.stop) := by
    rw [hlength, moved_start h]
  have hstop : (right.moved left part.length).stop =
      (items.take left.start ++ part).length + (right.stop - left.stop) := by
    simp only [stop] at h hstart ⊢
    simp only [moved] at hstart ⊢
    omega
  have hle : left.stop ≤ right.stop := Nat.le_trans h (Nat.le_add_right _ _)
  rw [replaced, replaced, replacedBoth, hstart, hstop, List.take_length_add_append,
    List.drop_length_add_append, List.drop_drop, Nat.add_sub_cancel' hle, List.drop_take]

end Span

/-! ### Texts and attribute sets -/

section

variable {left right : Span}

theorem carriedCell_replaced_before {cells : List AttributeSet} (h : left.stop < right.start)
    (hright : right.stop ≤ cells.length) (part : List AttributeSet) (fragment : Fragment) :
    carriedCell (right.replaced part cells) left fragment = carriedCell cells left fragment := by
  cases fragment with
  | styled text attributes => rfl
  | plain text =>
      have hplace : (if left.length ≠ 0 then left.start else left.start - 1) < right.start := by
        simp only [Span.stop] at h
        split <;> omega
      rw [carriedCell, carriedCell, inheritedCell, inheritedCell, Span.replaced]
      exact congrArg (·.getD ∅) (getElem?_onSpan_before part hright hplace)

/-- Plain text that replaces nothing inherits from the character before it, which lies
behind the other span. -/
theorem carriedCell_replaced_behind {cells : List AttributeSet} (h : left.stop < right.start)
    (hright : right.stop ≤ cells.length) (part : List AttributeSet) (fragment : Fragment) :
    carriedCell (left.replaced part cells) (right.moved left part.length) fragment =
      carriedCell cells right fragment := by
  cases fragment with
  | styled text attributes => rfl
  | plain text =>
      have hleft : left.stop ≤ cells.length := by
        simp only [Span.stop] at h hright ⊢
        omega
      have hstart := Span.moved_start (Nat.le_of_lt h) part.length
      have hbehind (place : Nat) :
          (left.replaced part cells)[left.start + part.length + place]? =
            cells[left.stop + place]? :=
        getElem?_onSpan_behind part hleft place
      rw [carriedCell, carriedCell, inheritedCell, inheritedCell]
      change (left.replaced part cells)[if right.length ≠ 0 then _ else _]?.getD ∅ = _
      split
      · have hplace := hbehind (right.start - left.stop)
        rw [Nat.add_sub_cancel' (Nat.le_of_lt h)] at hplace
        rw [hstart, hplace]
      · have hplace := hbehind (right.start - 1 - left.stop)
        rw [Nat.add_sub_cancel' (Nat.le_sub_one_of_lt h)] at hplace
        rw [← hplace, hstart]
        congr 2
        omega

end

namespace Mutation

variable {left right : Span} (fragment fragment' : Fragment)

theorem length_onText {span : Span} {text : List Char} (h : span.stop ≤ text.length) :
    ((replaceCharacters span fragment).onText text).length =
      span.start + fragment.length + (text.length - span.stop) := by
  simp only [onText, Text.replaceSpan_eq]
  exact Span.length_replaced h fragment.text

theorem fits_moved {text : List Char} (h : left.stop < right.start)
    (hright : right.stop ≤ text.length) :
    (replaceCharacters (right.moved left fragment.length) fragment').Fits
      ((replaceCharacters left fragment).onText text).length := by
  have hstart := Span.moved_start (Nat.le_of_lt h) fragment.length
  have hleft : left.stop ≤ text.length := by
    simp only [Span.stop] at h hright ⊢
    omega
  rw [length_onText fragment hleft]
  change (right.moved left fragment.length).stop ≤ _
  simp only [Span.stop] at hright ⊢
  simp only [Span.moved] at hstart ⊢
  omega

theorem fits_kept {text : List Char} (h : left.stop < right.start)
    (hright : right.stop ≤ text.length) :
    (replaceCharacters left fragment).Fits
      ((replaceCharacters right fragment').onText text).length := by
  rw [length_onText fragment' hright]
  change left.stop ≤ _
  omega

theorem onText_moved {text : List Char} (h : left.stop < right.start)
    (hright : right.stop ≤ text.length) :
    (replaceCharacters (right.moved left fragment.length) fragment').onText
        ((replaceCharacters left fragment).onText text) =
      left.replacedBoth right fragment.text fragment'.text text := by
  simp only [onText, Text.replaceSpan_eq]
  exact Span.replaced_replaced_behind (Nat.le_of_lt h) hright fragment.text fragment'.text

theorem onText_kept {text : List Char} (h : left.stop < right.start)
    (hright : right.stop ≤ text.length) :
    (replaceCharacters left fragment).onText ((replaceCharacters right fragment').onText text) =
      left.replacedBoth right fragment.text fragment'.text text := by
  simp only [onText, Text.replaceSpan_eq]
  exact Span.replaced_replaced_before (Nat.le_of_lt h) hright fragment.text fragment'.text

/-- What the two spans inherit does not depend on the order. -/
theorem onCells_moved {cells : List AttributeSet} (h : left.stop < right.start)
    (hright : right.stop ≤ cells.length) :
    (replaceCharacters (right.moved left fragment.length) fragment').onCells
        ((replaceCharacters left fragment).onCells cells) =
      (replaceCharacters left fragment).onCells
        ((replaceCharacters right fragment').onCells cells) := by
  let part := List.replicate fragment.length (carriedCell cells left fragment)
  let part' := List.replicate fragment'.length (carriedCell cells right fragment')
  have hlength : part.length = fragment.length := List.length_replicate
  have hbehind := carriedCell_replaced_behind h hright part fragment'
  have hbefore := carriedCell_replaced_before h hright part' fragment
  have hmoved := Span.replaced_replaced_behind (Nat.le_of_lt h) hright part part'
  have hkept := Span.replaced_replaced_before (Nat.le_of_lt h) hright part part'
  rw [hlength] at hbehind hmoved
  calc
    _ = (right.moved left fragment.length).replaced
          (List.replicate fragment'.length
            (carriedCell (left.replaced part cells) (right.moved left fragment.length) fragment'))
          (left.replaced part cells) := rfl
    _ = left.replacedBoth right part part' cells := by rw [hbehind, hmoved]
    _ = left.replaced
          (List.replicate fragment.length
            (carriedCell (right.replaced part' cells) left fragment))
          (right.replaced part' cells) := by rw [hbefore, hkept]
    _ = _ := rfl

end Mutation

/-! ### Records -/

namespace Pending

variable {mask : Nat} {delta : Int} {span earlier : Span}

/-- The record of a first edit. -/
theorem record_none (mask : Nat) (span : Span) (length : Nat) :
    Pending.none.record mask span ((length : Int) - span.length) =
      .ok ⟨mask, some ⟨span.start, length⟩, (length : Int) - span.length⟩ := by
  have hlength : span.length + ((length : Int) - span.length) = length := by omega
  rw [record, hlength, Span.ofInts_natCast]
  simp only [none, Nat.zero_or, Int.zero_add]
  rfl

/-- The record of a later edit of the same kinds, once it is known where the earlier span
goes. -/
theorem record_some {carried : Span} (length : Nat)
    (hstart : carry span ((length : Int) - span.length) earlier.start = carried.start)
    (hstop : carry span ((length : Int) - span.length) earlier.stop = carried.stop) :
    (Pending.mk mask (some earlier) delta).record mask span ((length : Int) - span.length) =
      .ok ⟨mask, some ((Span.mk span.start length).union carried),
        delta + ((length : Int) - span.length)⟩ := by
  have hlength : span.length + ((length : Int) - span.length) = length := by omega
  have hedited : Span.ofInts span.start (span.length + ((length : Int) - span.length)) =
      .ok ⟨span.start, length⟩ := by
    rw [hlength, Span.ofInts_natCast]
  have hcarried : Span.ofInts (carry span ((length : Int) - span.length) earlier.start)
      (carry span ((length : Int) - span.length) earlier.stop -
        carry span ((length : Int) - span.length) earlier.start) = .ok carried := by
    have hcount : (carried.stop : Int) - carried.start = carried.length := by
      simp only [Span.stop]
      omega
    rw [hstart, hstop, hcount, Span.ofInts_natCast]
  calc
    _ = .ok ⟨mask ||| mask, some ((Span.mk span.start length).union carried), _⟩ :=
      (bind_eq_of_eq_ok hedited _).trans (bind_eq_of_eq_ok hcarried _)
    _ = _ := by rw [Nat.or_self]

/-- An edit behind what is recorded leaves it where it is. -/
theorem record_behind (h : earlier.stop ≤ span.start) (length : Nat) :
    (Pending.mk mask (some earlier) delta).record mask span ((length : Int) - span.length) =
      .ok ⟨mask, some ⟨earlier.start, span.start - earlier.start + length⟩,
        delta + ((length : Int) - span.length)⟩ := by
  have hle : (earlier.start : Int) ≤ span.start := by
    simp only [Span.stop] at h
    omega
  have hunion : (Span.mk span.start length).union earlier =
      ⟨earlier.start, span.start - earlier.start + length⟩ := by
    simp only [Span.stop] at h
    simp only [Span.union, Span.stop, Span.mk.injEq]
    omega
  rw [← hunion]
  exact record_some length (if_pos hle) (if_pos (Int.ofNat_le.2 h))

/-- An edit before what is recorded moves it. -/
theorem record_before (h : span.stop ≤ earlier.start) (hlt : span.start < earlier.start)
    (length : Nat) :
    (Pending.mk mask (some earlier) delta).record mask span ((length : Int) - span.length) =
      .ok ⟨mask, some ⟨span.start, (earlier.moved span length).start - span.start + earlier.length⟩,
        delta + ((length : Int) - span.length)⟩ := by
  have hplace := Span.moved_start h length
  have hunion : (Span.mk span.start length).union (earlier.moved span length) =
      ⟨span.start, (earlier.moved span length).start - span.start + earlier.length⟩ := by
    have hlength : (earlier.moved span length).length = earlier.length := rfl
    simp only [Span.union, Span.stop, Span.mk.injEq]
    omega
  have hcarry {offset : Nat} (hoffset : earlier.start ≤ offset) :
      carry span ((length : Int) - span.length) offset =
        offset + ((length : Int) - span.length) := by
    rw [carry, if_neg (by omega), if_pos (by omega)]
  rw [← hunion]
  apply record_some
  · rw [hcarry (Nat.le_refl _)]
    simp only [Span.stop] at h
    simp only [Span.moved]
    omega
  · have hle : earlier.start ≤ earlier.stop := Nat.le_add_right _ _
    rw [hcarry hle]
    simp only [Span.stop] at h
    simp only [Span.moved, Span.stop]
    omega

/-- What is recorded of two replacements of separate spans. -/
def both (mask : Nat) (left right : Span) (length length' : Nat) : Pending where
  mask := mask
  span := some ⟨left.start, length + (right.start - left.stop) + length'⟩
  delta := ((length : Int) - left.length) + ((length' : Int) - right.length)

variable {left right : Span} {length length' : Nat} {first second : Pending}

theorem eq_both_of_moved (h : left.stop < right.start)
    (hfirst : Pending.none.record mask left ((length : Int) - left.length) = .ok first)
    (hsecond : first.record mask (right.moved left length) ((length' : Int) - right.length) =
      .ok second) : second = both mask left right length length' := by
  have hstart := Span.moved_start (Nat.le_of_lt h) length
  have hplace : (Span.mk left.start length).stop ≤ (right.moved left length).start := by
    simp only [Span.stop] at hstart ⊢
    omega
  have hcount : (right.moved left length).start - left.start + length' =
      length + (right.start - left.stop) + length' := by omega
  cases (record_none mask left length).symm.trans hfirst
  cases (record_behind hplace length').symm.trans hsecond
  rw [both, ← hcount]
  rfl

theorem eq_both_of_kept (h : left.stop < right.start)
    (hfirst : Pending.none.record mask right ((length' : Int) - right.length) = .ok first)
    (hsecond : first.record mask left ((length : Int) - left.length) = .ok second) :
    second = both mask left right length length' := by
  have hstart := Span.moved_start (Nat.le_of_lt h) length
  have hplace : left.stop ≤ (Span.mk right.start length').start := Nat.le_of_lt h
  have hlt : left.start < (Span.mk right.start length').start := by
    simp only [Span.stop] at h
    simp only
    omega
  have hcount : (right.moved left length).start - left.start + length' =
      length + (right.start - left.stop) + length' := by omega
  cases (record_none mask right length').symm.trans hfirst
  cases (record_before hplace hlt length).symm.trans hsecond
  rw [both, ← hcount, Int.add_comm]
  rfl

end Pending

end MarkupEditor
