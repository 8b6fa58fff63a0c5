import MarkupEditor.Color.Hex

/-!
# Which values are colors

A color is a text of a number sign and three or six hexadecimal digits.  This
module says so without reading the digits, and shows that reading accepts
exactly these texts.
-/

namespace MarkupEditor

namespace Color

/-- Whether a character is a hexadecimal digit of either case. -/
def isHexDigit (c : Char) : Bool :=
  ('0' ≤ c && c ≤ '9') || ('a' ≤ c && c ≤ 'f') || ('A' ≤ c && c ≤ 'F')

/-- Whether a text is a number sign with three or six hexadecimal digits. -/
def isHexText : List Char → Bool
  | '#' :: digits => (digits.length == 3 || digits.length == 6) && digits.all isHexDigit
  | _ => false

theorem isSome_digitValue? (c : Char) : (digitValue? c).isSome = isHexDigit c := by
  have hle (low high : Char) : (decide (low ≤ c) && decide (c ≤ high)) =
      decide (low.toNat ≤ c.toNat ∧ c.toNat ≤ high.toNat) := by
    rw [Bool.decide_and]
    rfl
  rw [isHexDigit, hle, hle, hle, digitValue?]
  split
  · next h => simp [h]
  · next hdecimal =>
    split
    · next h => simp [h]
    · next hlower =>
      split
      · next h => simp [h]
      · next hupper => simp [hdecimal, hlower, hupper]

/-- Digits are read as long as they are all hexadecimal. -/
theorem mapM_digitValue? (digits : List Char) :
    if digits.all isHexDigit then
      ∃ values, digits.mapM digitValue? = some values ∧ values.length = digits.length
    else digits.mapM digitValue? = none := by
  induction digits with
  | nil => exact ⟨[], rfl, rfl⟩
  | cons c rest ih =>
      rw [List.all_cons, ← isSome_digitValue?, List.mapM_cons]
      cases digitValue? c with
      | none => rfl
      | some value =>
          rw [Option.isSome_some, Bool.true_and]
          split at ih
          · next hrest =>
            obtain ⟨values, hvalues, hlength⟩ := ih
            rw [if_pos hrest, hvalues]
            exact ⟨value :: values, rfl, congrArg Nat.succ hlength⟩
          · next hrest =>
            rw [if_neg hrest, ih]
            rfl

theorem isSome_ofDigits? (values : List (Fin 16)) :
    (ofDigits? values).isSome = (values.length == 3 || values.length == 6) := by
  match values with
  | [] | [_] | [_, _] | [_, _, _] | [_, _, _, _] | [_, _, _, _, _] | [_, _, _, _, _, _] => rfl
  | _ :: _ :: _ :: _ :: _ :: _ :: _ :: rest =>
      simp [ofDigits?]

theorem isSome_ofChars? (text : List Char) : (ofChars? text).isSome = isHexText text := by
  rw [ofChars?.eq_def]
  split
  · next digits =>
    rw [isHexText]
    have hread := mapM_digitValue? digits
    split at hread
    · next hall =>
      obtain ⟨values, hvalues, hlength⟩ := hread
      rw [hvalues, Option.bind_some, isSome_ofDigits?, hlength, hall, Bool.and_true]
    · next hall =>
      rw [hread, Bool.eq_false_iff.2 hall, Bool.and_false]
      rfl
  · next hsign =>
    rw [isHexText]
    · rfl
    · exact hsign

end Color

/-- Whether an attribute value is a color. -/
def Value.isHexColor : Value → Bool
  | .text given => Color.isHexText given.toList
  | _ => false

theorem Color.exists_ofValue {value : Value} (h : value.isHexColor = true) :
    ∃ color, Color.ofValue value = .ok color := by
  cases value with
  | text text =>
      rw [Value.isHexColor, ← isSome_ofChars?] at h
      obtain ⟨color, hcolor⟩ := Option.isSome_iff_exists.1 h
      have hread : ofText? text = some color := hcolor
      refine ⟨color, ?_⟩
      rw [ofValue, hread]
  | _ => cases h

theorem Color.ofValue_eq_error {value : Value} (h : value.isHexColor = false) :
    Color.ofValue value = .error (.invalidColor value) := by
  cases value with
  | text text =>
      rw [Value.isHexColor, ← isSome_ofChars?] at h
      have hread : ofText? text = none := Option.not_isSome_iff_eq_none.1 (Bool.eq_false_iff.1 h)
      rw [ofValue, hread]
  | _ => rfl

namespace Color

/-! ### The one way a color is written -/

theorem digitValue?_digit (value : Fin 16) : digitValue? (digit value) = some value := by
  revert value
  decide

theorem pair_digits (component : Fin 256) (hhigh : component.val / 16 < 16)
    (hlow : component.val % 16 < 16) :
    pair ⟨component.val / 16, hhigh⟩ ⟨component.val % 16, hlow⟩ = component := by
  apply Fin.ext
  exact Nat.div_add_mod component.val 16

/-- A color is read as it is written. -/
theorem ofText?_toText (color : Color) : ofText? color.toText = some color := by
  rw [ofText?, toText, String.toList_ofList, digits]
  simp only [ofChars?, componentDigits, List.cons_append, List.nil_append, List.mapM_cons,
    List.mapM_nil, digitValue?_digit, Option.pure_def, Option.bind_eq_bind, Option.bind_some,
    ofDigits?, pair_digits]

theorem ofValue_toText (color : Color) : ofValue (.text color.toText) = .ok color := by
  rw [ofValue, ofText?_toText]

end Color

end MarkupEditor
