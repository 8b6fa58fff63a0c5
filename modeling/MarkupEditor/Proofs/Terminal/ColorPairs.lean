import MarkupEditor.Color.Palette
import MarkupEditor.Proofs.Terminal.Allotment
import Mathlib.Data.List.Perm.Subperm

/-!
# How the colors of a palette are drawn

Asking for the color of a layer never fails.  It defines one pair at most, and whoever
asks again is told the same, however many colors have been asked for in between.  Since a
palette has three colors, no look is mistaken for reverse.
-/

namespace MarkupEditor

namespace Palette

/-- How the color of a layer is written. -/
def text (palette : Palette) (layer : Layer) : String := (palette.color layer).toText

/-- The color of a layer, if there is a layer. -/
def value? (palette : Palette) (layer : Option Layer) : Option Value :=
  layer.map fun layer => .text (palette.text layer)

end Palette

namespace ColorPairs

variable {palette : Palette} {terminal : Terminal} {pairs : ColorPairs} {layer other : Option Layer}
  {drawn : Drawn} {look : Look}

/-- What asking for the color of a layer comes to. -/
inductive Asked (palette : Palette) (terminal : Terminal) (pairs : ColorPairs) :
    Option Layer → Drawn → Prop
  | plain : Asked palette terminal pairs none ⟨pairs, .normal, []⟩
  | known {layer : Layer} {number : Nat}
      (h : pairs.numbers.lookup (palette.text layer) = some number) :
      Asked palette terminal pairs (some layer) ⟨pairs, terminal.device.pair number, []⟩
  | full {layer : Layer} (h : pairs.numbers.lookup (palette.text layer) = none)
      (hlimit : terminal.pairs ≤ pairs.next) :
      Asked palette terminal pairs (some layer) ⟨pairs, .normal, []⟩
  | defined {layer : Layer} (h : pairs.numbers.lookup (palette.text layer) = none)
      (hlimit : pairs.next < terminal.pairs) {drawn : Drawn}
      (hdrawn : drawn =
        pairs.define terminal.device (palette.text layer) (palette.color layer)) :
      Asked palette terminal pairs (some layer) drawn

theorem Asked.lookFor_eq (h : Asked palette terminal pairs layer drawn) :
    pairs.lookFor terminal (palette.value? layer) = .ok drawn := by
  cases h with
  | plain => rfl
  | known hnumber => simp only [Palette.value?, Option.map_some, lookFor, hnumber]
  | full hnone hlimit =>
      simp only [Palette.value?, Option.map_some, lookFor, hnone, lookForNew, if_pos hlimit]
  | defined hnone hlimit hdrawn =>
      have hvalue (layer : Layer) : Color.ofValue (.text (palette.text layer)) =
          .ok (palette.color layer) := Color.ofValue_toText _
      simp only [Palette.value?, Option.map_some, lookFor, hnone, lookForNew,
        if_neg (Int.not_le.2 hlimit), hvalue, hdrawn]
      rfl

theorem exists_asked (palette : Palette) (terminal : Terminal) (pairs : ColorPairs)
    (layer : Option Layer) : ∃ drawn, Asked palette terminal pairs layer drawn := by
  cases layer with
  | none => exact ⟨_, .plain⟩
  | some layer =>
      cases hnumber : pairs.numbers.lookup (palette.text layer) with
      | some number => exact ⟨_, .known hnumber⟩
      | none =>
          by_cases hlimit : terminal.pairs ≤ pairs.next
          · exact ⟨_, .full hnumber hlimit⟩
          · exact ⟨_, .defined hnumber (Int.not_le.1 hlimit) rfl⟩

/-- Each answer is one of these. -/
theorem asked_iff : Asked palette terminal pairs layer drawn ↔
    pairs.lookFor terminal (palette.value? layer) = .ok drawn := by
  refine ⟨Asked.lookFor_eq, fun h => ?_⟩
  obtain ⟨answer, hasked⟩ := exists_asked palette terminal pairs layer
  obtain rfl := Except.ok.inj (hasked.lookFor_eq.symm.trans h)
  exact hasked

/-! ### Asking again -/

/-- Asking for the color of a layer is answered by a look and defines nothing. -/
def Settled (palette : Palette) (terminal : Terminal) (pairs : ColorPairs) (layer : Option Layer)
    (look : Look) : Prop :=
  Asked palette terminal pairs layer ⟨pairs, look, []⟩

theorem settled_iff_decided :
    Settled palette terminal pairs layer look ↔
      Decided terminal pairs (palette.value? layer) look :=
  asked_iff

theorem Asked.settled (h : Asked palette terminal pairs layer drawn) :
    Settled palette terminal drawn.pairs layer drawn.look :=
  settled_iff_decided.2 (decided_of_lookFor h.lookFor_eq)

/-- The answer for a color does not change when another one is asked for. -/
theorem Settled.after (h : Settled palette terminal pairs other look)
    (hasked : Asked palette terminal pairs layer drawn) :
    Settled palette terminal drawn.pairs other look := by
  cases hasked with
  | plain | known | full => exact h
  | defined hnone hlimit hdrawn =>
      rw [hdrawn]
      exact settled_iff_decided.2
        ((settled_iff_decided.1 h).define (not_knows_of_lookup hnone) hlimit _)

/-! ### Numbers -/

/-- Each color of a palette has one number at most, and these are given in a row. -/
structure Numbered (palette : Palette) (pairs : ColorPairs) : Prop where
  texts : ∀ known ∈ pairs.numbers, ∃ layer, known.1 = palette.text layer
  nodup : (pairs.numbers.map Prod.fst).Nodup
  lt : ∀ known ∈ pairs.numbers, known.2 < pairs.next
  next : pairs.next = firstPair + pairs.numbers.length

theorem numbered_new (palette : Palette) (extended : Bool) : Numbered palette (new extended) where
  texts _ h := absurd h List.not_mem_nil
  nodup := List.nodup_nil
  lt _ h := absurd h List.not_mem_nil
  next := rfl

theorem Asked.numbered (h : Asked palette terminal pairs layer drawn)
    (hnumbered : Numbered palette pairs) : Numbered palette drawn.pairs := by
  cases h with
  | plain | known | full => exact hnumbered
  | @defined layer hnone hlimit _ hdrawn =>
      rw [hdrawn]
      constructor
      case texts =>
        intro known hknown
        obtain rfl | hearlier := List.mem_cons.1 hknown
        · exact ⟨layer, rfl⟩
        · exact hnumbered.texts known hearlier
      case nodup => exact nodup_texts_define hnumbered.nodup (not_knows_of_lookup hnone)
      case lt =>
        intro known hknown
        obtain rfl | hearlier := List.mem_cons.1 hknown
        · exact Nat.lt_succ_self _
        · exact Nat.lt_succ_of_lt (hnumbered.lt known hearlier)
      case next =>
        change pairs.next + 1 = _
        rw [hnumbered.next]
        rfl

/-- A palette has no more than three colors. -/
theorem Numbered.length_le (h : Numbered palette pairs) : pairs.numbers.length ≤ 3 := by
  have hsubset : pairs.numbers.map Prod.fst ⊆
      [palette.text .tag, palette.text .quoted, palette.text .comment] := by
    intro text htext
    obtain ⟨known, hknown, rfl⟩ := List.mem_map.1 htext
    obtain ⟨layer, hlayer⟩ := h.texts known hknown
    rw [hlayer]
    cases layer <;> simp
  have hlength := (h.nodup.subperm hsubset).length_le
  rwa [List.length_map] at hlength

/-! ### Colors asked for one after another -/

/-- How color pairs go on: what has been answered stays answered. -/
structure Later (palette : Palette) (terminal : Terminal) (before after : ColorPairs) : Prop where
  numbered : Numbered palette before → Numbered palette after
  settled : ∀ {layer look}, Settled palette terminal before layer look →
    Settled palette terminal after layer look

theorem Later.refl (palette : Palette) (terminal : Terminal) (pairs : ColorPairs) :
    Later palette terminal pairs pairs := ⟨id, id⟩

theorem Later.trans {first second third : ColorPairs} (h : Later palette terminal first second)
    (h' : Later palette terminal second third) : Later palette terminal first third :=
  ⟨h'.numbered ∘ h.numbered, h'.settled ∘ h.settled⟩

theorem Asked.later (h : Asked palette terminal pairs layer drawn) :
    Later palette terminal pairs drawn.pairs :=
  ⟨h.numbered, fun hsettled => hsettled.after h⟩

/-- A color of the palette, or none, with the look that whoever asks for it is told. -/
def Draws (palette : Palette) (terminal : Terminal) (pairs : ColorPairs) (color : Option Value)
    (look : Look) : Prop :=
  ∃ layer, color = palette.value? layer ∧ Settled palette terminal pairs layer look

theorem Draws.lookFor_eq {color : Option Value} (h : Draws palette terminal pairs color look) :
    pairs.lookFor terminal color = .ok ⟨pairs, look, []⟩ := by
  obtain ⟨layer, rfl, hsettled⟩ := h
  exact Asked.lookFor_eq hsettled

theorem Draws.look_eq {color : Option Value} {look' : Look}
    (h : Draws palette terminal pairs color look) (h' : Draws palette terminal pairs color look') :
    look = look' :=
  congrArg Drawn.look (Except.ok.inj (h.lookFor_eq.symm.trans h'.lookFor_eq))

theorem Draws.later {color : Option Value} {after : ColorPairs}
    (h : Draws palette terminal pairs color look) (hlater : Later palette terminal pairs after) :
    Draws palette terminal after color look := by
  obtain ⟨layer, hlayer, hsettled⟩ := h
  exact ⟨layer, hlayer, hlater.settled hsettled⟩

/-- No look of a color is reverse. -/
theorem Settled.ne_reverse (h : Settled palette terminal pairs layer look)
    (hnumbered : Numbered palette pairs) : look ≠ Look.reverse := by
  cases h with
  | plain => decide
  | @known layer number hnumber =>
      obtain ⟨earlier, later, hnumbers, -⟩ := List.lookup_eq_some_iff.1 hnumber
      have hmem : (palette.text layer, number) ∈ pairs.numbers := by
        rw [hnumbers]
        exact List.mem_append_right _ List.mem_cons_self
      have hlt : number < pairs.next := hnumbered.lt _ hmem
      have hnext := hnumbered.next
      have hlength := hnumbered.length_le
      rw [firstPair] at hnext
      rw [terminal.device.pair_eq (by omega)]
      intro hreverse
      have hpair : number * 256 = 262144 := hreverse
      omega
  | full => decide
  | defined _ _ hsame => cases congrArg Drawn.requests hsame

end ColorPairs

end MarkupEditor
