import MarkupEditor.Span

/-!
# Markup patterns

Three patterns describe the markup worth coloring: tags, quoted values and
comments.  A search goes through the text from left to right; at every offset it
takes the match that begins there, if there is one, and goes on behind it.  It
ends early where a match has been opened that nothing closes.
-/

namespace MarkupEditor

inductive Pattern where
  /-- `<`, at least one character other than `>`, and `>`. -/
  | tag
  /-- Two double quotes with neither a double quote nor a line feed between. -/
  | quoted
  /-- A comment: its opening, at least one character, and the first closing behind that. -/
  | comment
deriving DecidableEq

/-- A match: where it begins, and the characters it is made of. -/
structure Match where
  start : Nat
  text : List Char
deriving DecidableEq

namespace Match

def span (found : Match) : Span := ⟨found.start, found.text.length⟩

end Match

namespace Pattern

/-- The length of the tag a text begins with. -/
def tagLength? : List Char → Option Nat
  | '<' :: rest =>
    match rest.findIdx? (· == '>') with
    | some (length + 1) => some (length + 3)
    | _ => none
  | _ => none

/-- The length of the quoted value a text begins with. -/
def quotedLength? : List Char → Option Nat
  | '"' :: rest =>
    match rest.findIdx? fun c => c == '"' || c == '\n' with
    | some length => if rest[length]? = some '"' then some (length + 2) else none
    | none => none
  | _ => none

/-- The offset of the first closing of a comment. -/
def closing? : List Char → Option Nat
  | [] => none
  | '-' :: '-' :: '>' :: _ => some 0
  | _ :: rest => (closing? rest).map (· + 1)

/-- The length of the comment a text begins with. -/
def commentLength? : List Char → Option Nat
  | '<' :: '!' :: '-' :: '-' :: _ :: rest => (closing? rest).map (· + 8)
  | _ => none

/-- The length of the match a text begins with. -/
def matchLength? : Pattern → List Char → Option Nat
  | .tag => tagLength?
  | .quoted => quotedLength?
  | .comment => commentLength?

/-- Whether a text opens a match that could be closed anywhere behind. -/
def isOpenEnded : Pattern → List Char → Bool
  | .tag, '<' :: c :: _ => c != '>'
  | .comment, '<' :: '!' :: '-' :: '-' :: _ :: _ => true
  | _, _ => false

theorem closing?_eq_none_of_suffix {text later : List Char} (h : closing? text = none)
    (hlater : later <:+ text) : closing? later = none := by
  obtain ⟨passed, rfl⟩ := hlater
  induction passed with
  | nil => exact h
  | cons c passed ih =>
    refine ih ?_
    rw [List.cons_append] at h
    unfold closing? at h
    split at h
    · simp_all
    · simp at h
    · simp_all

theorem tagLength?_eq_none_of_not_mem {text : List Char} (h : '>' ∉ text.tail) :
    tagLength? text = none := by
  unfold tagLength?
  split
  · next rest =>
    have hnone : rest.findIdx? (· == '>') = none := by
      rw [List.findIdx?_eq_none_iff]
      intro c hc
      have : c ≠ '>' := fun heq => h (by simpa [heq] using hc)
      simpa using this
    simp [hnone]
  · rfl

/-- A tag with a character is left open only where nothing closes it. -/
theorem not_mem_of_tagLength?_eq_none {c : Char} {rest : List Char} (hc : c ≠ '>')
    (h : tagLength? ('<' :: c :: rest) = none) : '>' ∉ c :: rest := by
  intro hmem
  have hnone : (c :: rest).findIdx? (· == '>') = none := by
    rw [tagLength?] at h
    split at h
    · simp at h
    · next hindex =>
      rcases hfound : (c :: rest).findIdx? (· == '>') with _ | index
      · rfl
      · cases index with
        | zero => simp [List.findIdx?_cons, hc] at hfound
        | succ index => exact absurd hfound (hindex index)
  rw [List.findIdx?_eq_none_iff] at hnone
  simpa using hnone '>' hmem

theorem tail_suffix_of_suffix_cons {first : Char} {text later : List Char}
    (h : later <:+ first :: text) : later.tail <:+ text := by
  obtain rfl | hrest := List.suffix_cons_iff.1 h
  · exact List.suffix_refl text
  · exact (List.tail_suffix later).trans hrest

/-- What leaves a comment open to the end of a text leaves every later one open, too. -/
theorem commentLength?_eq_none_of_suffix {first : Char} {rest later : List Char}
    (h : closing? rest = none) (hlater : later <:+ '<' :: '!' :: '-' :: '-' :: first :: rest) :
    commentLength? later = none := by
  unfold commentLength?
  split
  · next c behind =>
    have hbehind : behind <:+ rest :=
      tail_suffix_of_suffix_cons <| tail_suffix_of_suffix_cons <| tail_suffix_of_suffix_cons <|
        tail_suffix_of_suffix_cons <| tail_suffix_of_suffix_cons hlater
    rw [closing?_eq_none_of_suffix h hbehind]
    rfl
  · rfl

/-- What leaves an open-ended match open to the end of a text leaves every later
match open, too. -/
theorem matchLength?_eq_none_of_suffix {pattern : Pattern} {text later : List Char}
    (hopen : pattern.isOpenEnded text = true) (h : pattern.matchLength? text = none)
    (hlater : later <:+ text) : pattern.matchLength? later = none := by
  unfold isOpenEnded at hopen
  split at hopen
  · next c rest =>
    have hnone : '>' ∉ c :: rest := not_mem_of_tagLength?_eq_none (by simpa using hopen) h
    apply tagLength?_eq_none_of_not_mem
    exact fun hmem => hnone ((tail_suffix_of_suffix_cons hlater).subset hmem)
  · next first rest =>
    have hnone : closing? rest = none := by
      simpa [matchLength?, commentLength?] using h
    exact commentLength?_eq_none_of_suffix hnone hlater
  · cases hopen

/-- The matches in a text that begins at an offset, where the first `skip`
characters belong to an earlier match.  What leaves one match open to the end
leaves every later one open, too. -/
def scan (pattern : Pattern) (offset : Nat) : Nat → List Char → List Match
  | _, [] => []
  | skip + 1, _ :: rest => scan pattern (offset + 1) skip rest
  | 0, text@(_ :: rest) =>
    match pattern.matchLength? text with
    | some length => ⟨offset, text.take length⟩ :: scan pattern (offset + 1) (length - 1) rest
    | none => if pattern.isOpenEnded text then [] else scan pattern (offset + 1) 0 rest

theorem scan_eq_nil {pattern : Pattern} {offset : Nat} {text : List Char}
    (h : ∀ later, later <:+ text → pattern.matchLength? later = none) :
    pattern.scan offset 0 text = [] := by
  induction text generalizing offset with
  | nil => rfl
  | cons c rest ih =>
    rw [scan, h _ (List.suffix_refl _)]
    simp only
    split
    · rfl
    · exact ih fun later hlater => h later (hlater.trans (List.suffix_cons c rest))

/-- Where no match begins, the search goes on behind the character. -/
theorem scan_cons_of_eq_none {pattern : Pattern} {offset : Nat} {c : Char} {rest : List Char}
    (h : pattern.matchLength? (c :: rest) = none) :
    pattern.scan offset 0 (c :: rest) = pattern.scan (offset + 1) 0 rest := by
  rw [scan, h]
  simp only
  split
  · next hopen =>
    exact (scan_eq_nil fun later hlater => matchLength?_eq_none_of_suffix hopen h
      (hlater.trans (List.suffix_cons c rest))).symm
  · rfl

/-- All matches in a text. -/
def search (pattern : Pattern) (text : List Char) : List Match := pattern.scan 0 0 text

/-- The spans of all matches in a text. -/
def findAll (pattern : Pattern) (text : List Char) : List Span :=
  (pattern.search text).map Match.span

/-- The spans of all matches in the text of a match, which is searched as if
nothing else were there. -/
def findInside (pattern : Pattern) (outer : Match) : List Span :=
  (pattern.scan outer.start 0 outer.text).map Match.span

/-- The spans of all matches in a part of a text, which is searched as if nothing
else were there. -/
def findIn (pattern : Pattern) (text : List Char) (part : Span) : List Span :=
  let start := min part.start text.length
  let stop := min part.stop text.length
  pattern.findInside ⟨start, (text.take stop).drop start⟩

def name : Pattern → String
  | .tag => "tag"
  | .quoted => "quoted"
  | .comment => "comment"

/-- The pattern as a regular expression. -/
def expression : Pattern → String
  | .tag => "<[^>]+>"
  | .quoted => "\".*?\""
  | .comment => "<!--.+?-->"

end Pattern

end MarkupEditor
