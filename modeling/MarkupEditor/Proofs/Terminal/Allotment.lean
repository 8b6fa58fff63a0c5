import MarkupEditor.Proofs.Color.Spelling
import MarkupEditor.Proofs.Terminal.Device
import MarkupEditor.Terminal.ColorPairs
import Mathlib.Data.List.Nodup
import Mathlib.Data.List.Forall2

/-!
# How numbers are given to colors

Colors get the numbers of color pairs in a row, in the order in which they are first asked
for, until the terminal has no more.  A color keeps its number, whatever else is asked for:
colors, values that are none, or nothing.  Once all numbers are given, anything without a
number is drawn as plain text, except what no table can hold: that is always refused.
A console tells 256 pairs apart, and a color that gets a later one may look like plain text.
-/

namespace MarkupEditor

namespace ColorPairs

variable {terminal : Terminal} {pairs : ColorPairs} {value : Value} {color : Option Value}

/-- Whether a value is a color with a number. -/
def Knows (pairs : ColorPairs) (value : Value) : Prop :=
  ∃ known ∈ pairs.numbers, value = .text known.1

/-- The look that whoever asks for a color is told. -/
def told (pairs : ColorPairs) (terminal : Terminal) (color : Option Value) :
    Except Failure Look :=
  (pairs.lookFor terminal color).map Drawn.look

theorem knows_text_iff {text : String} :
    pairs.Knows (.text text) ↔ (pairs.numbers.lookup text).isSome = true := by
  rw [← not_iff_not, Bool.not_eq_true, Option.isSome_eq_false_iff, Option.isNone_iff_eq_none,
    List.lookup_eq_none_iff]
  constructor
  · intro hnew known hknown
    rw [bne_iff_ne]
    rintro rfl
    exact hnew ⟨known, hknown, rfl⟩
  · rintro hall ⟨known, hknown, htext⟩
    exact bne_iff_ne.1 (hall known hknown) (Value.text.inj htext)

theorem not_knows_of_lookup {text : String} (h : pairs.numbers.lookup text = none) :
    ¬ pairs.Knows (.text text) := by
  rw [knows_text_iff, h]
  exact Bool.false_ne_true

theorem exists_drawn_of_told {look : Look} (h : pairs.told terminal color = .ok look) :
    ∃ drawn, pairs.lookFor terminal color = .ok drawn ∧ drawn.look = look := by
  rw [told] at h
  cases hlook : pairs.lookFor terminal color with
  | error failure =>
      rw [hlook] at h
      cases h
  | ok drawn =>
      rw [hlook] at h
      exact ⟨drawn, rfl, Except.ok.inj h⟩

theorem lookFor_of_told_error {failure : Failure}
    (h : pairs.told terminal color = .error failure) :
    pairs.lookFor terminal color = .error failure := by
  rw [told] at h
  cases hlook : pairs.lookFor terminal color with
  | error reason =>
      rw [hlook] at h
      rw [Except.error.inj h]
  | ok drawn =>
      rw [hlook] at h
      cases h

/-- A color that gets a number has had none. -/
theorem nodup_texts_define {text : String} (h : (pairs.numbers.map Prod.fst).Nodup)
    (hnew : ¬ pairs.Knows (.text text)) :
    (((text, pairs.next) :: pairs.numbers).map Prod.fst).Nodup := by
  apply List.nodup_cons.2
  refine ⟨?_, h⟩
  intro hmem
  obtain ⟨known, hknown, htext⟩ := List.mem_map.1 hmem
  exact hnew ⟨known, hknown, congrArg Value.text htext.symm⟩

/-! ### One color -/

/-- What asking for a color comes to. -/
inductive Answers (terminal : Terminal) (pairs : ColorPairs) :
    Option Value → Except Failure Drawn → Prop
  | absent : Answers terminal pairs none (.ok ⟨pairs, .normal, []⟩)
  | known {text : String} {number : Nat} (h : pairs.numbers.lookup text = some number) :
      Answers terminal pairs (some (.text text)) (.ok ⟨pairs, terminal.device.pair number, []⟩)
  | full {value : Value} (hkey : value.aggregate? = none) (hnew : ¬ pairs.Knows value)
      (hlimit : terminal.pairs ≤ pairs.next) :
      Answers terminal pairs (some value) (.ok ⟨pairs, .normal, []⟩)
  | defined {text : String} {color : Color} (hnew : ¬ pairs.Knows (.text text))
      (hlimit : pairs.next < terminal.pairs) (hcolor : Color.ofValue (.text text) = .ok color) :
      Answers terminal pairs (some (.text text)) (.ok (pairs.define terminal.device text color))
  | invalid {value : Value} (hkey : value.aggregate? = none) (hnew : ¬ pairs.Knows value)
      (hlimit : pairs.next < terminal.pairs) (hcolor : value.isHexColor = false) :
      Answers terminal pairs (some value) (.error (.invalidColor value))
  | notAKey {value part : Value} (hpart : value.aggregate? = some part) :
      Answers terminal pairs (some value) (.error (.notAKey part))

theorem answers_lookForNew (hkey : value.aggregate? = none) (hnew : ¬ pairs.Knows value) :
    Answers terminal pairs (some value) (pairs.lookForNew terminal value) := by
  rw [lookForNew.eq_def]
  split
  · next hlimit => exact .full hkey hnew hlimit
  · next hlimit =>
    have hroom : (pairs.next : Int) < terminal.pairs := Int.not_le.1 hlimit
    cases hhex : value.isHexColor with
    | true =>
        obtain ⟨color, hcolor⟩ := Color.exists_ofValue hhex
        cases value with
        | text text =>
            simp only [hcolor]
            exact .defined hnew hroom hcolor
        | _ => cases hhex
    | false =>
        have hcolor := Color.ofValue_eq_error hhex
        cases value with
        | text text =>
            simp only [hcolor]
            exact .invalid hkey hnew hroom hhex
        | _ => exact .invalid hkey hnew hroom hhex

theorem answers_lookFor (terminal : Terminal) (pairs : ColorPairs) (color : Option Value) :
    Answers terminal pairs color (pairs.lookFor terminal color) := by
  rw [lookFor.eq_def]
  split
  · exact .absent
  · next text =>
    split
    · next number hnumber => exact .known hnumber
    · next hnone =>
      exact answers_lookForNew rfl (not_knows_of_lookup hnone)
  · next value htext =>
    split
    · next part hpart => exact .notAKey hpart
    · next hkey =>
      apply answers_lookForNew hkey
      rintro ⟨known, -, rfl⟩
      exact htext known.1 rfl

/-! ### Colors asked for one after another -/

/-- Color pairs with the requests that have been made for them, in order. -/
structure Served where
  pairs : ColorPairs
  requests : List Request

/-- Asks for one more color; a refusal changes nothing. -/
def Served.ask (terminal : Terminal) (served : Served) (color : Option Value) : Served :=
  match served.pairs.lookFor terminal color with
  | .ok drawn => ⟨drawn.pairs, served.requests ++ drawn.requests⟩
  | .error _ => served

/-- New color pairs that some colors have been asked for. -/
def serve (extended : Bool) (terminal : Terminal) (colors : List (Option Value)) : Served :=
  colors.foldl (Served.ask terminal) ⟨new extended, []⟩

theorem serve_append (extended : Bool) (terminal : Terminal) (earlier later : List (Option Value)) :
    serve extended terminal (earlier ++ later) =
      later.foldl (Served.ask terminal) (serve extended terminal earlier) :=
  List.foldl_append ..

/-- The request that makes a color known to the terminal by its number. -/
def Defines (pairs : ColorPairs) (known : String × Nat) (request : Request) : Prop :=
  ∃ color, Color.ofValue (.text known.1) = .ok color ∧
    request = .definePair known.2 (pairs.terminalColor color) (-1)

namespace Served

variable {served after : Served}

/-- Numbers below the terminal are given in a row, one to each color, and the terminal is
asked once to define each of them. -/
structure Allotted (terminal : Terminal) (served : Served) : Prop where
  next : served.pairs.next = firstPair + served.pairs.numbers.length
  inARow : served.pairs.numbers.reverse.map Prod.snd =
    List.range' firstPair served.pairs.numbers.length
  below : ∀ known ∈ served.pairs.numbers, (known.2 : Int) < terminal.pairs
  nodup : (served.pairs.numbers.map Prod.fst).Nodup
  defined : List.Forall₂ served.pairs.Defines served.pairs.numbers.reverse served.requests

theorem allotted_new (extended : Bool) (terminal : Terminal) :
    Allotted terminal ⟨new extended, []⟩ where
  next := rfl
  inARow := rfl
  below _ h := absurd h List.not_mem_nil
  nodup := List.nodup_nil
  defined := .nil

/-- A color without a number gets the next one. -/
theorem Allotted.define (h : Allotted terminal served) {text : String} {color : Color}
    (hnew : ¬ served.pairs.Knows (.text text)) (hlimit : served.pairs.next < terminal.pairs)
    (hcolor : Color.ofValue (.text text) = .ok color) :
    Allotted terminal ⟨(served.pairs.define terminal.device text color).pairs,
      served.requests ++ (served.pairs.define terminal.device text color).requests⟩ where
  next := by
    change served.pairs.next + 1 = _
    rw [h.next]
    rfl
  inARow := by
    change ((text, served.pairs.next) :: served.pairs.numbers).reverse.map Prod.snd =
      List.range' firstPair (served.pairs.numbers.length + 1)
    rw [List.reverse_cons, List.map_append, h.inARow, List.range'_1_concat, h.next]
    rfl
  below := by
    intro known hknown
    obtain rfl | hearlier := List.mem_cons.1 hknown
    · exact hlimit
    · exact h.below known hearlier
  nodup := nodup_texts_define h.nodup hnew
  defined := by
    change List.Forall₂ _ ((text, served.pairs.next) :: served.pairs.numbers).reverse _
    rw [List.reverse_cons]
    exact List.rel_append h.defined (.cons ⟨color, hcolor, rfl⟩ .nil)

theorem Allotted.ask (h : Allotted terminal served) (color : Option Value) :
    Allotted terminal (served.ask terminal color) := by
  have hanswers := answers_lookFor terminal served.pairs color
  rw [Served.ask]
  cases hlook : served.pairs.lookFor terminal color with
  | error failure => exact h
  | ok drawn =>
      rw [hlook] at hanswers
      cases hanswers with
      | absent | known | full =>
          simp only [List.append_nil]
          exact h
      | defined hnew hlimit hcolor => exact h.define hnew hlimit hcolor

theorem Allotted.foldl_ask (h : Allotted terminal served) (colors : List (Option Value)) :
    Allotted terminal (colors.foldl (Served.ask terminal) served) := by
  induction colors generalizing served with
  | nil => exact h
  | cons color rest ih => exact ih (h.ask color)

/-- No two colors have the same number. -/
theorem Allotted.eq_of_number_eq (h : Allotted terminal served) {known other : String × Nat}
    (hknown : known ∈ served.pairs.numbers) (hother : other ∈ served.pairs.numbers)
    (hnumber : known.2 = other.2) : known = other := by
  have hnodup : (served.pairs.numbers.reverse.map Prod.snd).Nodup := by
    rw [h.inARow]
    exact List.nodup_range'
  exact List.inj_on_of_nodup_map hnodup (List.mem_reverse.2 hknown) (List.mem_reverse.2 hother)
    hnumber

theorem Allotted.firstPair_le (h : Allotted terminal served) {known : String × Nat}
    (hknown : known ∈ served.pairs.numbers) : firstPair ≤ known.2 := by
  have hmem : known.2 ∈ served.pairs.numbers.reverse.map Prod.snd :=
    List.mem_map_of_mem (List.mem_reverse.2 hknown)
  rw [h.inARow] at hmem
  exact (List.mem_range'_1.1 hmem).1

end Served

/-! ### Asking again -/

/-- Whoever asks for a color is told a look, and nothing has to be defined for it. -/
def Decided (terminal : Terminal) (pairs : ColorPairs) (color : Option Value) (look : Look) :
    Prop :=
  pairs.lookFor terminal color = .ok ⟨pairs, look, []⟩

theorem decided_of_lookup {text : String} {number : Nat}
    (h : pairs.numbers.lookup text = some number) :
    Decided terminal pairs (some (.text text)) (terminal.device.pair number) := by
  simp only [Decided, lookFor, h]

theorem decided_of_lookFor {drawn : Drawn} (h : pairs.lookFor terminal color = .ok drawn) :
    Decided terminal drawn.pairs color drawn.look := by
  have hanswers := answers_lookFor terminal pairs color
  rw [h] at hanswers
  cases hanswers with
  | absent | known | full => exact h
  | defined => exact decided_of_lookup (List.lookup_cons_self ..)

/-- The look of a color does not change when another color gets a number. -/
theorem Decided.define {look : Look} (h : Decided terminal pairs color look) {text : String}
    (hnew : ¬ pairs.Knows (.text text)) (hlimit : pairs.next < terminal.pairs) (defined : Color) :
    Decided terminal (pairs.define terminal.device text defined).pairs color look := by
  generalize hdrawn : (⟨pairs, look, []⟩ : Drawn) = drawn
  have hanswers := answers_lookFor terminal pairs color
  rw [h, hdrawn] at hanswers
  cases hanswers with
  | absent =>
      obtain rfl := congrArg Drawn.look hdrawn
      rfl
  | @known earlier number hnumber =>
      obtain rfl := congrArg Drawn.look hdrawn
      apply decided_of_lookup
      have hne : (earlier == text) = false := by
        rw [beq_eq_false_iff_ne]
        rintro rfl
        exact hnew (knows_text_iff.2 (Option.isSome_of_mem hnumber))
      rw [ColorPairs.define, List.lookup_cons, hne]
      exact hnumber
  | full _ _ hfull => exact absurd hlimit (Int.not_lt.2 hfull)
  | defined => cases congrArg Drawn.requests hdrawn

namespace Served

variable {served : Served} {other : Option Value} {look : Look}

theorem decided_ask (h : Decided terminal served.pairs other look) (color : Option Value) :
    Decided terminal (served.ask terminal color).pairs other look := by
  have hanswers := answers_lookFor terminal served.pairs color
  rw [Served.ask]
  cases hlook : served.pairs.lookFor terminal color with
  | error failure => exact h
  | ok drawn =>
      rw [hlook] at hanswers
      cases hanswers with
      | absent | known | full => exact h
      | @defined text defined hnew hlimit hcolor => exact h.define hnew hlimit defined

theorem decided_foldl_ask (h : Decided terminal served.pairs other look)
    (colors : List (Option Value)) :
    Decided terminal (colors.foldl (Served.ask terminal) served).pairs other look := by
  induction colors generalizing served with
  | nil => exact h
  | cons color rest ih => exact ih (decided_ask h color)

/-- What a color is drawn as once it has been asked for, it is drawn as ever after. -/
theorem told_foldl_ask (h : served.pairs.told terminal other = .ok look)
    (colors : List (Option Value)) :
    ((other :: colors).foldl (Served.ask terminal) served).pairs.told terminal other =
      .ok look := by
  obtain ⟨drawn, hlook, rfl⟩ := exists_drawn_of_told h
  have hasked : (served.ask terminal other).pairs = drawn.pairs := by
    rw [Served.ask, hlook]
  have hdecided : Decided terminal (served.ask terminal other).pairs other drawn.look := by
    rw [hasked]
    exact decided_of_lookFor hlook
  rw [List.foldl_cons, told, decided_foldl_ask hdecided colors]
  rfl

theorem ask_eq_self {failure : Failure} (h : served.pairs.told terminal other = .error failure) :
    served.ask terminal other = served := by
  rw [Served.ask, lookFor_of_told_error h]

end Served

/-! ### What asking comes to -/

/-- Nothing asked for, or what has no number when all numbers are given.  No table can hold
a list or a record, and none is searched for one. -/
def DrawnPlainly (terminal : Terminal) (pairs : ColorPairs) (color : Option Value) : Prop :=
  color = none ∨ ∃ value, color = some value ∧ value.aggregate? = none ∧
    ¬ pairs.Knows value ∧ terminal.pairs ≤ pairs.next

/-- The reason for which asking for a color is refused. -/
inductive Refuses (terminal : Terminal) (pairs : ColorPairs) : Option Value → Failure → Prop
  | invalid {value : Value} (hkey : value.aggregate? = none) (hnew : ¬ pairs.Knows value)
      (hlimit : pairs.next < terminal.pairs) (hcolor : value.isHexColor = false) :
      Refuses terminal pairs (some value) (.invalidColor value)
  | notAKey {value part : Value} (hpart : value.aggregate? = some part) :
      Refuses terminal pairs (some value) (.notAKey part)

theorem refuses_of_told {failure : Failure} (h : pairs.told terminal color = .error failure) :
    Refuses terminal pairs color failure := by
  have hanswers := answers_lookFor terminal pairs color
  rw [lookFor_of_told_error h] at hanswers
  cases hanswers with
  | invalid hkey hnew hlimit hcolor => exact .invalid hkey hnew hlimit hcolor
  | notAKey hpart => exact .notAKey hpart

/-- Of the number that a color has, or is given, a console keeps nothing. -/
def NumberLost (terminal : Terminal) (served : Served) (color : Option Value) : Prop :=
  terminal.device = .console ∧ ∃ known ∈ (served.ask terminal color).pairs.numbers,
    color = some (.text known.1) ∧ known.2 % 256 = 0

theorem pair_eq_normal_iff {number : Nat} (h : firstPair ≤ number) :
    terminal.device.pair number = Look.normal ↔
      terminal.device = .console ∧ number % 256 = 0 :=
  Device.pair_eq_normal_iff (Nat.lt_of_lt_of_le (Nat.succ_pos 2) h)

namespace Served

variable {served : Served}

theorem Allotted.lookup_eq (h : Allotted terminal served) {known : String × Nat}
    (hknown : known ∈ served.pairs.numbers) :
    served.pairs.numbers.lookup known.1 = some known.2 := by
  obtain ⟨later, earlier, hnumbers⟩ := List.append_of_mem hknown
  refine List.lookup_eq_some_iff.2 ⟨later, earlier, hnumbers, ?_⟩
  intro other hother
  rw [bne_iff_ne]
  intro hsame
  have hnodup := h.nodup
  rw [hnumbers, List.map_append, List.map_cons, List.nodup_append] at hnodup
  exact hnodup.2.2 other.1 (List.mem_map_of_mem hother) known.1 List.mem_cons_self hsame.symm

/-- A color is drawn in the pair of its number. -/
theorem Allotted.told_known (h : Allotted terminal served) {known : String × Nat}
    (hknown : known ∈ served.pairs.numbers) :
    served.pairs.told terminal (some (.text known.1)) =
      .ok (terminal.device.pair known.2) := by
  rw [told, decided_of_lookup (h.lookup_eq hknown)]
  rfl

/-- What has a number looks like plain text only if a console keeps nothing of it. -/
theorem Allotted.drawnPlainly_or_lost (h : Allotted terminal served)
    (htold : served.pairs.told terminal color = .ok .normal) :
    DrawnPlainly terminal served.pairs color ∨ NumberLost terminal served color := by
  obtain ⟨drawn, hlook, hnormal⟩ := exists_drawn_of_told htold
  have hanswers := answers_lookFor terminal served.pairs color
  rw [NumberLost, Served.ask, hlook]
  rw [hlook] at hanswers
  cases hanswers with
  | absent => exact .inl (.inl rfl)
  | full hkey hnew hlimit => exact .inl (.inr ⟨_, rfl, hkey, hnew, hlimit⟩)
  | @known text number hnumber =>
      have hmem : (text, number) ∈ served.pairs.numbers := by
        obtain ⟨later, earlier, hnumbers, -⟩ := List.lookup_eq_some_iff.1 hnumber
        rw [hnumbers]
        exact List.mem_append_right _ List.mem_cons_self
      obtain ⟨hconsole, hlost⟩ := (pair_eq_normal_iff (h.firstPair_le hmem)).1 hnormal
      exact .inr ⟨hconsole, _, hmem, rfl, hlost⟩
  | @defined text =>
      have hfirst : firstPair ≤ served.pairs.next := by
        rw [h.next]
        exact Nat.le_add_right ..
      obtain ⟨hconsole, hlost⟩ := (pair_eq_normal_iff hfirst).1 hnormal
      exact .inr ⟨hconsole, (text, served.pairs.next), List.mem_cons_self, rfl, hlost⟩

/-- A number that a console keeps nothing of is that of no pair. -/
theorem Allotted.told_of_lost (h : Allotted terminal served)
    (hlost : NumberLost terminal served color) :
    served.pairs.told terminal color = .ok .normal := by
  obtain ⟨hconsole, known, hmem, rfl, hnumber⟩ := hlost
  have hlater := (h.ask _).told_known hmem
  have hnormal : terminal.device.pair known.2 = Look.normal :=
    (pair_eq_normal_iff ((h.ask _).firstPair_le hmem)).2 ⟨hconsole, hnumber⟩
  rw [hnormal] at hlater
  cases htold : served.pairs.told terminal (some (.text known.1)) with
  | ok look =>
      have hsame := told_foldl_ask htold []
      rw [← hsame]
      exact hlater
  | error failure =>
      rw [ask_eq_self htold, htold] at hlater
      cases hlater

end Served

theorem DrawnPlainly.told_eq (h : DrawnPlainly terminal pairs color) :
    pairs.told terminal color = .ok .normal := by
  obtain rfl | ⟨value, rfl, hkey, hnew, hfull⟩ := h
  · rfl
  · cases htold : pairs.told terminal (some value) with
    | error failure =>
        cases refuses_of_told htold with
        | invalid _ _ hlimit _ => exact absurd hlimit (Int.not_lt.2 hfull)
        | notAKey hpart =>
            rw [hkey] at hpart
            cases hpart
    | ok look =>
        obtain ⟨drawn, hlook, rfl⟩ := exists_drawn_of_told htold
        have hanswers := answers_lookFor terminal pairs (some value)
        rw [hlook] at hanswers
        cases hanswers with
        | known hnumber => exact absurd (knows_text_iff.2 (Option.isSome_of_mem hnumber)) hnew
        | full => rfl
        | defined _ hlimit _ => exact absurd hlimit (Int.not_lt.2 hfull)

/-- Whatever is asked for, numbers are given in a row, each is defined once, and no two
colors have the same one.  A color is drawn in the pair of its number.  Text is drawn plainly
exactly if it has no color, if all numbers are given and its color has none, or if a console
keeps nothing of the number.  What a color is drawn as, it is drawn as ever after, and what
is refused changes nothing. -/
theorem allotted_serve (extended : Bool) (terminal : Terminal) (earlier : List (Option Value)) :
    let served := serve extended terminal earlier
    served.Allotted terminal ∧
      (∀ known ∈ served.pairs.numbers,
        served.pairs.told terminal (some (.text known.1)) =
          .ok (terminal.device.pair known.2) ∧
        ∀ other ∈ served.pairs.numbers, known.2 = other.2 → known.1 = other.1) ∧
      ∀ color : Option Value,
        (served.pairs.told terminal color = .ok .normal ↔
          DrawnPlainly terminal served.pairs color ∨ NumberLost terminal served color) ∧
        match served.pairs.told terminal color with
        | .ok look => ∀ later : List (Option Value),
          (serve extended terminal (earlier ++ color :: later)).pairs.told terminal color = .ok look
        | .error failure => Refuses terminal served.pairs color failure ∧
          serve extended terminal (earlier ++ [color]) = served := by
  intro served
  have h : served.Allotted terminal := (Served.allotted_new extended terminal).foldl_ask earlier
  refine ⟨h, ?_, ?_⟩
  · intro known hknown
    refine ⟨h.told_known hknown, ?_⟩
    intro other hother hnumber
    rw [h.eq_of_number_eq hknown hother hnumber]
  · intro color
    refine ⟨⟨h.drawnPlainly_or_lost, ?_⟩, ?_⟩
    · rintro (hplainly | hlost)
      · exact hplainly.told_eq
      · exact h.told_of_lost hlost
    cases htold : served.pairs.told terminal color with
    | ok look =>
        intro later
        rw [serve_append]
        exact Served.told_foldl_ask htold later
    | error failure =>
        refine ⟨refuses_of_told htold, ?_⟩
        rw [serve_append]
        exact Served.ask_eq_self htold

/-! ### What else looks like plain text, and what does not -/

/-- The text of a color, asked for. -/
def asked (color : Color) : Option Value := some (.text color.toText)

/-- As long as there is room, a new color gets the next number. -/
theorem lookFor_of_new {color : Color} (hnew : ¬ pairs.Knows (.text color.toText))
    (hroom : pairs.next < terminal.pairs) :
    pairs.lookFor terminal (asked color) =
      .ok (pairs.define terminal.device color.toText color) := by
  have hnumber : pairs.numbers.lookup color.toText = none := by
    rw [← Option.isNone_iff_eq_none, ← Option.isSome_eq_false_iff, ← Bool.not_eq_true]
    exact fun hsome => hnew (knows_text_iff.2 hsome)
  have hfull : ¬ terminal.pairs ≤ pairs.next := Int.not_le.2 hroom
  simp only [asked, lookFor, hnumber, lookForNew, if_neg hfull, Color.ofValue_toText]
  rfl

theorem knows_define {device : Device} {text : String} {color : Color}
    (h : (pairs.define device text color).pairs.Knows value) :
    value = .text text ∨ pairs.Knows value := by
  obtain ⟨known, hknown, hvalue⟩ := h
  obtain rfl | hearlier := List.mem_cons.1 hknown
  · exact .inl hvalue
  · exact .inr ⟨known, hearlier, hvalue⟩

/-- As long as there is room, new colors get a number each. -/
theorem Served.next_foldl_ask {served : Served} {colors : List Color} (hnodup : colors.Nodup)
    (hnew : ∀ color ∈ colors, ¬ served.pairs.Knows (.text color.toText))
    (hroom : served.pairs.next + colors.length ≤ terminal.pairs) :
    let reached := (colors.map asked).foldl (Served.ask terminal) served
    reached.pairs.next = served.pairs.next + colors.length ∧
      ∀ value, reached.pairs.Knows value →
        served.pairs.Knows value ∨ ∃ color ∈ colors, value = .text color.toText := by
  induction colors generalizing served with
  | nil => exact ⟨rfl, fun _ => .inl⟩
  | cons color rest ih =>
      obtain ⟨hfresh, hrest⟩ := List.nodup_cons.1 hnodup
      rw [List.length_cons] at hroom
      have hpairs : (served.ask terminal (asked color)).pairs =
          (served.pairs.define terminal.device color.toText color).pairs := by
        rw [Served.ask, lookFor_of_new (hnew color List.mem_cons_self) (by omega)]
      have hknows {value : Value} (h : (served.ask terminal (asked color)).pairs.Knows value) :
          value = .text color.toText ∨ served.pairs.Knows value := by
        rw [hpairs] at h
        exact knows_define h
      have hnext : (served.ask terminal (asked color)).pairs.next = served.pairs.next + 1 := by
        rw [hpairs]
        rfl
      have hothers (other : Color) (hother : other ∈ rest) :
          ¬ (served.ask terminal (asked color)).pairs.Knows (.text other.toText) := by
        intro hknown
        obtain htext | hbefore := hknows hknown
        · rw [Color.toText_injective (Value.text.inj htext)] at hother
          exact hfresh hother
        · exact hnew other (List.mem_cons_of_mem _ hother) hbefore
      obtain ⟨hlast, hreached⟩ := ih hrest hothers (by omega)
      refine ⟨?_, ?_⟩
      · rw [List.map_cons, List.foldl_cons, hlast, hnext, List.length_cons]
        omega
      · intro value hvalue
        obtain hbefore | ⟨other, hother, htext⟩ := hreached value hvalue
        · obtain htext | hbefore := hknows hbefore
          · exact .inr ⟨color, List.mem_cons_self, htext⟩
          · exact .inl hbefore
        · exact .inr ⟨other, List.mem_cons_of_mem _ hother, htext⟩

/-- New colors get the numbers in a row, each in its turn. -/
theorem told_next {extended : Bool} {colors : List Color} {color : Color}
    (hnodup : (color :: colors).Nodup)
    (hroom : firstPair + (colors.length : Int) < terminal.pairs) :
    let served := serve extended terminal (colors.map asked)
    served.pairs.next = firstPair + colors.length ∧
      served.pairs.told terminal (asked color) =
        .ok (terminal.device.pair (firstPair + colors.length)) := by
  intro served
  obtain ⟨hfresh, hcolors⟩ := List.nodup_cons.1 hnodup
  have hnone : ∀ other ∈ colors, ¬ (new extended).Knows (.text other.toText) := by
    rintro other - ⟨known, hmem, -⟩
    cases hmem
  obtain ⟨hnext, hknows⟩ :=
    @Served.next_foldl_ask terminal ⟨new extended, []⟩ colors hcolors hnone (Int.le_of_lt hroom)
  have hnext : served.pairs.next = firstPair + colors.length := hnext
  have hnew : ¬ served.pairs.Knows (.text color.toText) := by
    intro hknown
    obtain ⟨_, hmem, -⟩ | ⟨other, hother, htext⟩ := hknows _ hknown
    · cases hmem
    · rw [← Color.toText_injective (Value.text.inj htext)] at hother
      exact hfresh hother
  have hlimit : served.pairs.next < terminal.pairs := by
    rw [hnext]
    exact hroom
  refine ⟨hnext, ?_⟩
  rw [told, lookFor_of_new hnew hlimit, ← hnext]
  rfl

/-- Nothing, or what has no number when all numbers are given. -/
def Unnumbered (terminal : Terminal) (pairs : ColorPairs) (color : Option Value) : Prop :=
  color = none ∨ ∃ value, color = some value ∧ ¬ pairs.Knows value ∧
    terminal.pairs ≤ pairs.next

/-- A console that has far more color pairs than it tells apart. -/
def richConsole : Terminal := ⟨.console, 65536⟩

/-- Eight bits do not hold the number of the 254th color. -/
theorem told_254th {colors : List Color} {color : Color} (hnodup : (color :: colors).Nodup)
    (hlength : colors.length = 253) :
    let served := serve true richConsole (colors.map asked)
    served.pairs.told richConsole (asked color) = .ok .normal ∧
      ¬ Unnumbered richConsole served.pairs (asked color) := by
  intro served
  have hroom : firstPair + (colors.length : Int) < richConsole.pairs := by
    rw [hlength]
    decide
  obtain ⟨hnext, htold⟩ := @told_next richConsole true _ _ hnodup hroom
  rw [hlength] at hnext htold
  refine ⟨htold, ?_⟩
  rintro (hnone | ⟨value, -, -, hfull⟩)
  · cases hnone
  · rw [hnext] at hfull
    revert hfull
    decide

/-- A color for each level of blue. -/
def blue (level : Fin 256) : Color := ⟨Color.component 0, Color.component 0, level⟩

/-- All levels of blue but the last three. -/
def blues : List Color := ((List.finRange 256).take 253).map blue

/-- A list has no number, and yet it is not drawn as plain text when all numbers are given.
The 254th color has a number, and yet a console draws it as plain text. -/
theorem told_normal_not_unnumbered :
    ¬ ((serve true ⟨.console, 3⟩ []).pairs.told ⟨.console, 3⟩ (some (.list [.integer 1])) =
        .ok .normal ↔
      Unnumbered ⟨.console, 3⟩ (serve true ⟨.console, 3⟩ []).pairs (some (.list [.integer 1]))) ∧
    ¬ ((serve true richConsole (blues.map asked)).pairs.told richConsole (asked (blue 253)) =
        .ok .normal ↔
      Unnumbered richConsole (serve true richConsole (blues.map asked)).pairs
        (asked (blue 253))) := by
  constructor
  · intro h
    have hnew : ¬ (serve true ⟨.console, 3⟩ []).pairs.Knows (.list [.integer 1]) := by
      rintro ⟨known, hknown, -⟩
      cases hknown
    cases h.2 (.inr ⟨_, rfl, hnew, Int.le_refl 3⟩)
  · intro h
    have hfresh : 253 ∉ (List.finRange 256).take 253 := by
      intro hmem
      obtain ⟨level, hlevel, hsame⟩ := List.mem_take_iff_getElem.1 hmem
      rw [List.getElem_finRange] at hsame
      have hvalue : level = 253 := congrArg Fin.val hsame
      omega
    have hlevels : (253 :: (List.finRange 256).take 253).Nodup :=
      List.nodup_cons.2 ⟨hfresh, (List.nodup_finRange 256).sublist (List.take_sublist _ _)⟩
    have hblues : (blue 253 :: blues).Nodup :=
      hlevels.map fun _ _ hsame => congrArg Color.blue hsame
    have hlength : blues.length = 253 := by
      rw [blues, List.length_map, List.length_take, List.length_finRange]
      rfl
    obtain ⟨htold, hnumbered⟩ := told_254th hblues hlength
    exact hnumbered (h.1 htold)

end ColorPairs

end MarkupEditor
