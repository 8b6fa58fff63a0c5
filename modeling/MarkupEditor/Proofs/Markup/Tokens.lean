import MarkupEditor.Export.Token
import MarkupEditor.Proofs.Buffer.LayeredPass
import MarkupEditor.Proofs.Markup.Precedence

/-!
# Tokens cover the text

The tokens of a text are pieces of it in order, none of them empty, and neighbors show
different layers.  So each character lies in one token, which shows the layer on top at
the offset of the character.
-/

namespace MarkupEditor

namespace Token

/-- The layers of the characters that tokens are made of. -/
def layers (tokens : List Token) : List (Option Layer) :=
  tokens.flatMap fun token => List.replicate token.text.length token.layer

theorem kindName_injective : Function.Injective kindName := by
  rintro (_ | _ | _ | _) (_ | _ | _ | _) h
  all_goals first
    | rfl
    | exact absurd h (by decide)

/-- The name of the kind of the token that each character lies in. -/
def kinds (tokens : List Token) : List String :=
  tokens.flatMap fun token => List.replicate token.text.length (kindName token.layer)

theorem kinds_eq (tokens : List Token) : kinds tokens = (layers tokens).map kindName := by
  rw [kinds, layers, List.map_flatMap]
  simp only [List.map_replicate]

/-- Tokens of different kinds. -/
def Apart (left right : Token) : Prop := kindName left.layer ≠ kindName right.layer

variable (layer : Option Layer) (c : Char)

theorem flatMap_text_cons (tokens : List Token) :
    (cons layer c tokens).flatMap text = c :: tokens.flatMap text := by
  cases tokens with
  | nil => rfl
  | cons first rest =>
      rw [cons]
      split
      · rfl
      · rfl

theorem layers_cons (tokens : List Token) :
    layers (cons layer c tokens) = layer :: layers tokens := by
  cases tokens with
  | nil => rfl
  | cons first rest =>
      rw [cons]
      split
      · next hsame =>
        rw [← hsame]
        rfl
      · rfl

theorem text_ne_nil_of_mem_cons {tokens : List Token} (h : ∀ token ∈ tokens, token.text ≠ []) :
    ∀ token ∈ cons layer c tokens, token.text ≠ [] := by
  intro token htoken
  cases tokens with
  | nil =>
      rw [List.mem_singleton.1 htoken]
      exact List.cons_ne_nil c []
  | cons first rest =>
      rw [cons] at htoken
      split at htoken
      · rcases List.mem_cons.1 htoken with rfl | hrest
        · exact List.cons_ne_nil c first.text
        · exact h token (List.mem_cons_of_mem first hrest)
      · rcases List.mem_cons.1 htoken with rfl | hlater
        · exact List.cons_ne_nil c []
        · exact h token hlater

/-- A character in front joins the first token or stays apart from it. -/
theorem isChain_cons {tokens : List Token} (h : tokens.IsChain Apart) :
    (cons layer c tokens).IsChain Apart := by
  cases tokens with
  | nil => exact .singleton _
  | cons first rest =>
      rw [cons]
      split
      · next hsame =>
        cases rest with
        | nil => exact .singleton _
        | cons second rest =>
            obtain ⟨hapart, hrest⟩ := List.isChain_cons_cons.1 h
            refine .cons_cons ?_ hrest
            rwa [Apart, ← hsame]
      · next hother =>
        refine .cons_cons ?_ h
        intro hsame
        exact hother (kindName_injective hsame).symm

/-! ### Tokens of a text -/

variable (shown : List (Option Layer)) (text : List Char)

theorem flatMap_text_ofLayers (h : text.length ≤ shown.length) :
    (ofLayers shown text).flatMap Token.text = text := by
  induction text generalizing shown with
  | nil => cases shown <;> rfl
  | cons c text ih =>
      cases shown with
      | nil => cases h
      | cons layer shown =>
          rw [ofLayers, flatMap_text_cons, ih shown (Nat.le_of_succ_le_succ h)]

theorem layers_ofLayers (h : shown.length ≤ text.length) :
    layers (ofLayers shown text) = shown := by
  induction shown generalizing text with
  | nil => rfl
  | cons layer shown ih =>
      cases text with
      | nil => cases h
      | cons c text => rw [ofLayers, layers_cons, ih text (Nat.le_of_succ_le_succ h)]

theorem text_ne_nil_of_mem_ofLayers : ∀ token ∈ ofLayers shown text, token.text ≠ [] := by
  induction shown generalizing text with
  | nil => exact fun token htoken => absurd htoken List.not_mem_nil
  | cons layer shown ih =>
      cases text with
      | nil => exact fun token htoken => absurd htoken List.not_mem_nil
      | cons c text => exact text_ne_nil_of_mem_cons layer c (ih text)

theorem isChain_ofLayers : (ofLayers shown text).IsChain Apart := by
  induction shown generalizing text with
  | nil => exact .nil
  | cons layer shown ih =>
      cases text with
      | nil => exact .nil
      | cons c text => exact isChain_cons layer c (ih text)

end Token

namespace Buffer

variable (buffer : Buffer)

theorem flatMap_text_tokens : buffer.tokens.flatMap Token.text = buffer.text :=
  Token.flatMap_text_ofLayers _ _ (Nat.le_of_eq (length_layersOf _ _).symm)

/-- Each character shows the layer on top at its offset. -/
theorem getElem?_kinds_tokens {offset : Nat} (h : offset < buffer.length) :
    (Token.kinds buffer.tokens)[offset]? =
      some (Token.kindName (buffer.roles.layerAt? buffer.text offset)) := by
  rw [Token.kinds_eq, tokens, Token.layers_ofLayers _ _ (Nat.le_of_eq (length_layersOf _ _)),
    List.getElem?_map, getElem?_layersOf buffer.roles h]
  rfl

end Buffer

end MarkupEditor
