import MarkupEditor.Proofs.Color.Hex

/-!
# The one spelling of a color

A color can be written with three digits or six, and in either case of letters.  All of
these ways come to one spelling: a number sign and six upper-case digits, which show each
component by two of them.  So two values are spelled alike exactly if they have the same
components, and a spelling is its own spelling.
-/

namespace MarkupEditor

namespace Color

/-- How the color that a value denotes is spelled. -/
def spelling (value : Value) : Except Failure String := (ofValue value).map toText

/-- The red, the green and the blue component of the color that a value denotes. -/
def components (value : Value) : Except Failure (Nat × Nat × Nat) :=
  (ofValue value).map fun color => (color.red.val, color.green.val, color.blue.val)

/-- Three digits are each written twice; any others stand as they are. -/
def doubled {α : Type} (digits : List α) : List α :=
  if digits.length = 3 then digits.flatMap fun digit => [digit, digit] else digits

/-- A text of a color with all six digits, in upper case. -/
def normalized : List Char → List Char
  | [] => []
  | sign :: digits => sign :: (doubled digits).map Char.toUpper

/-- A number in at least two upper-case hexadecimal digits. -/
def twoDigits (number : Nat) : List Char :=
  ((Nat.toDigits 16 number).leftpad 2 '0').map Char.toUpper

def isUpperHexDigit (c : Char) : Bool := ('0' ≤ c && c ≤ '9') || ('A' ≤ c && c ≤ 'F')

/-- A number sign and six upper-case digits. -/
def IsNormal (text : List Char) : Prop :=
  ∃ digits, text = '#' :: digits ∧ digits.length = 6 ∧ ∀ c ∈ digits, isUpperHexDigit c = true

/-- What a text says as the spelling of a value. -/
structure Spells (text : String) (value : Value) : Prop where
  given : ∃ given : String, value = .text given ∧ isHexText given.toList = true ∧
    text.toList = normalized given.toList
  normal : IsNormal text.toList
  again : spelling (.text text) = .ok text ∧ components (.text text) = components value
  shown : ∃ red green blue, components value = .ok (red, green, blue) ∧
    (red < 256 ∧ green < 256 ∧ blue < 256) ∧
    text.toList = '#' :: (twoDigits red ++ twoDigits green ++ twoDigits blue)

/-! ### Digits -/

theorem toNat_lt_of_digitValue? {c : Char} {value : Fin 16} (h : digitValue? c = some value) :
    c.toNat < 128 := by
  obtain hlt | hle := Nat.lt_or_ge c.toNat 128
  · exact hlt
  · rw [digitValue?, dif_neg (by omega), dif_neg (by omega), dif_neg (by omega)] at h
    cases h

/-- Reading a digit and writing it again puts it in upper case. -/
theorem digit_eq_toUpper {c : Char} {value : Fin 16} (h : digitValue? c = some value) :
    digit value = c.toUpper := by
  have hcodes : ∀ code < 128, ∀ value, digitValue? (Char.ofNat code) = some value →
      digit value = (Char.ofNat code).toUpper := by
    decide
  have hchar : Char.ofNat c.toNat = c := Char.ofNat_toNat c
  have hupper := hcodes c.toNat (toNat_lt_of_digitValue? h) value (hchar.symm ▸ h)
  rwa [hchar] at hupper

theorem isUpperHexDigit_digit (value : Fin 16) : isUpperHexDigit (digit value) = true := by
  revert value
  decide

theorem componentDigits_eq_twoDigits (component : Fin 256) :
    componentDigits component = twoDigits component.val := by
  revert component
  decide +kernel

/-- Digits that are read and written again are the same ones in upper case. -/
theorem map_digit_of_mapM {digits : List Char} {values : List (Fin 16)}
    (h : digits.mapM digitValue? = some values) : values.map digit = digits.map Char.toUpper := by
  induction digits generalizing values with
  | nil =>
      obtain rfl := Option.some.inj h
      rfl
  | cons c rest ih =>
      rw [List.mapM_cons] at h
      obtain ⟨value, hvalue, hrest⟩ := Option.bind_eq_some_iff.1 h
      obtain ⟨others, hothers, hvalues⟩ := Option.bind_eq_some_iff.1 hrest
      obtain rfl := Option.some.inj hvalues
      rw [List.map_cons, List.map_cons, digit_eq_toUpper hvalue, ih hothers]

theorem map_doubled {α β : Type} (f : α → β) (digits : List α) :
    (doubled digits).map f = doubled (digits.map f) := by
  rw [doubled, doubled, List.length_map]
  split
  · rw [List.map_flatMap, List.flatMap_map]
    rfl
  · rfl

/-! ### The spelling of a text -/

/-- The two digits of the number that two digits stand for are these. -/
theorem componentDigits_pair (high low : Fin 16) :
    componentDigits (pair high low) = [digit high, digit low] := by
  have hhigh : (16 * high.val + low.val) / 16 = high.val := by omega
  have hlow : (16 * high.val + low.val) % 16 = low.val := by omega
  simp only [componentDigits, pair, hhigh, hlow, Fin.eta]

theorem digits_of_ofDigits? {values : List (Fin 16)} {color : Color}
    (h : ofDigits? values = some color) : color.digits = (doubled values).map digit := by
  rw [ofDigits?.eq_def] at h
  split at h
  · obtain rfl := Option.some.inj h
    simp only [digits, componentDigits_pair]
    rfl
  · obtain rfl := Option.some.inj h
    simp only [digits, componentDigits_pair]
    rfl
  · cases h

/-- The color of a text is written as the text is with all six digits in upper case. -/
theorem toList_toText_of_ofChars? {text : List Char} {color : Color}
    (h : ofChars? text = some color) : color.toText.toList = normalized text := by
  rw [ofChars?.eq_def] at h
  split at h
  · next given =>
    obtain ⟨values, hvalues, hcolor⟩ := Option.bind_eq_some_iff.1 h
    rw [toText, String.toList_ofList, normalized, digits_of_ofDigits? hcolor, map_doubled,
      map_digit_of_mapM hvalues, map_doubled]
  · cases h

theorem isNormal_toText (color : Color) : IsNormal color.toText.toList := by
  refine ⟨color.digits, String.toList_ofList .., rfl, ?_⟩
  intro c hc
  have hdigit : ∃ value, c = digit value := by
    simp only [digits, componentDigits, List.mem_append, List.mem_cons, List.not_mem_nil,
      or_false] at hc
    obtain (((rfl | rfl) | (rfl | rfl)) | (rfl | rfl)) := hc <;> exact ⟨_, rfl⟩
  obtain ⟨value, rfl⟩ := hdigit
  exact isUpperHexDigit_digit value

theorem toText_injective {left right : Color} (h : left.toText = right.toText) : left = right := by
  have hleft := ofText?_toText left
  rw [h, ofText?_toText] at hleft
  exact (Option.some.inj hleft).symm

theorem eq_of_components_eq {left right : Color}
    (h : (left.red.val, left.green.val, left.blue.val) =
      (right.red.val, right.green.val, right.blue.val)) : left = right := by
  obtain ⟨hred, hrest⟩ := Prod.mk.inj h
  obtain ⟨hgreen, hblue⟩ := Prod.mk.inj hrest
  cases left
  cases right
  rw [mk.injEq]
  exact ⟨Fin.ext hred, Fin.ext hgreen, Fin.ext hblue⟩

/-! ### The spelling of a value -/

theorem spells_toText {value : Value} {color : Color} (h : ofValue value = .ok color) :
    Spells color.toText value where
  given := by
    cases value with
    | text given =>
        rw [ofValue] at h
        split at h
        · next read hread =>
          obtain rfl := Except.ok.inj h
          refine ⟨given, rfl, ?_, toList_toText_of_ofChars? hread⟩
          rw [← isSome_ofChars?]
          exact Option.isSome_iff_exists.2 ⟨read, hread⟩
        · cases h
    | _ => cases h
  normal := isNormal_toText color
  again := by
    rw [spelling, components, components, ofValue_toText, h]
    exact ⟨rfl, rfl⟩
  shown := by
    refine ⟨color.red.val, color.green.val, color.blue.val, ?_,
      ⟨color.red.isLt, color.green.isLt, color.blue.isLt⟩, ?_⟩
    · rw [components, h]
      rfl
    · simp only [← componentDigits_eq_twoDigits]
      exact String.toList_ofList ..

/-- Exactly the values that are a number sign with three or six hexadecimal digits have a
spelling.  Of two of them, the spellings are the same exactly if the components are. -/
theorem spells_spelling (value : Value) :
    (match spelling value with
      | .ok text => Spells text value
      | .error failure => value.isHexColor = false ∧ failure = .invalidColor value ∧
          components value = .error failure) ∧
      ∀ other : Value, value.isHexColor = true → other.isHexColor = true →
        (spelling value = spelling other ↔ components value = components other) := by
  constructor
  · cases hcolor : value.isHexColor with
    | true =>
        obtain ⟨color, hread⟩ := exists_ofValue hcolor
        have hspelling : spelling value = .ok color.toText := by
          rw [spelling, hread]
          rfl
        rw [hspelling]
        exact spells_toText hread
    | false =>
        have hread := ofValue_eq_error hcolor
        have hspelling : spelling value = .error (.invalidColor value) := by
          rw [spelling, hread]
          rfl
        rw [hspelling]
        refine ⟨rfl, rfl, ?_⟩
        rw [components, hread]
        rfl
  · intro other hvalue hother
    obtain ⟨left, hleft⟩ := exists_ofValue hvalue
    obtain ⟨right, hright⟩ := exists_ofValue hother
    rw [spelling, spelling, components, components, hleft, hright]
    constructor
    · intro h
      rw [toText_injective (Except.ok.inj h)]
    · intro h
      rw [eq_of_components_eq (Except.ok.inj h)]

example : (spelling (.text "#0aF")).toOption = some "#00AAFF" := by
  decide +kernel

end Color

end MarkupEditor
