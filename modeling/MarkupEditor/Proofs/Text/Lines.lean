import Mathlib.Data.List.Infix
import MarkupEditor.Text.Lines

/-!
# Lines of a text

The lines of a text are what stands between its line feeds, and give the text back.  Up
to some place a text is whole lines and the beginning of one, and from there on the end
of a line and whole lines again.
-/

namespace MarkupEditor.Text

/-- Lines with the line feed behind each of them. -/
def ended (lines : List (List Char)) : List Char := lines.flatMap (· ++ ['\n'])

/-- Lines with the line feed before each of them. -/
def begun (lines : List (List Char)) : List Char := lines.flatMap ('\n' :: ·)

theorem ended_concat (lines : List (List Char)) (line : List Char) :
    ended (lines ++ [line]) = ended lines ++ (line ++ ['\n']) := by
  simp [ended]

theorem begun_append (lines others : List (List Char)) :
    begun (lines ++ others) = begun lines ++ begun others := by
  simp [begun]

theorem begun_nil : begun [] = [] := rfl

theorem begun_cons (line : List Char) (lines : List (List Char)) :
    begun (line :: lines) = '\n' :: (line ++ begun lines) := rfl

/-- A line feed before each line is one behind each line, and one more at the front. -/
theorem begun_append_cons (lines : List (List Char)) (rest : List Char) :
    begun lines ++ '\n' :: rest = '\n' :: (ended lines ++ rest) := by
  induction lines with
  | nil => rfl
  | cons line lines ih =>
      rw [begun_cons, List.cons_append, List.append_assoc, ih]
      simp [ended]

theorem length_ended (lines : List (List Char)) : (ended lines).length = extent lines := by
  induction lines with
  | nil => rfl
  | cons line lines ih =>
      rw [extent, ← ih]
      simp [ended]
      omega

/-! ### Lines -/

variable {text : List Char} {line : List Char}

theorem lines_line_feed (rest : List Char) : lines ('\n' :: rest) = [] :: lines rest := by
  rw [lines, if_pos rfl]

theorem lines_cons {c : Char} (hc : c ≠ '\n') {rest first : List Char}
    {others : List (List Char)} (hrest : lines rest = first :: others) :
    lines (c :: rest) = (c :: first) :: others := by
  rw [lines, if_neg hc, hrest]

theorem lines_append_line_feed (hline : '\n' ∉ line) (rest : List Char) :
    lines (line ++ '\n' :: rest) = line :: lines rest := by
  induction line with
  | nil => exact lines_line_feed rest
  | cons c line ih =>
      rw [List.mem_cons, not_or] at hline
      exact lines_cons (Ne.symm hline.1) (ih hline.2)

theorem lines_of_not_mem (hline : '\n' ∉ line) : lines line = [line] := by
  induction line with
  | nil => rfl
  | cons c line ih =>
      rw [List.mem_cons, not_or] at hline
      exact lines_cons (Ne.symm hline.1) (ih hline.2)

/-- Together the lines of a text are the text. -/
theorem begun_lines (text : List Char) : begun (lines text) = '\n' :: text := by
  induction text with
  | nil => rfl
  | cons c rest ih =>
      by_cases hc : c = '\n'
      · rw [hc, lines_line_feed, begun_cons, ih]
        rfl
      · obtain ⟨first, others, hrest⟩ := List.exists_cons_of_ne_nil (lines_ne_nil rest)
        rw [hrest, begun_cons] at ih
        rw [lines_cons hc hrest, begun_cons, List.cons_append, (List.cons.inj ih).2]

/-- There is one line more than there are line feeds. -/
theorem length_lines (text : List Char) : (lines text).length = text.count '\n' + 1 := by
  induction text with
  | nil => rfl
  | cons c rest ih =>
      by_cases hc : c = '\n'
      · rw [hc, lines_line_feed, List.length_cons, ih, List.count_cons_self]
      · obtain ⟨first, others, hrest⟩ := List.exists_cons_of_ne_nil (lines_ne_nil rest)
        rw [lines_cons hc hrest, List.count_cons_of_ne hc, ← ih, hrest]
        rfl

/-- Between lines there is one line feed less than before all of them. -/
theorem cons_intercalate {lines : List (List Char)} (h : lines ≠ []) :
    '\n' :: ['\n'].intercalate lines = begun lines := by
  induction lines with
  | nil => exact absurd rfl h
  | cons line lines ih =>
      cases lines with
      | nil => simp [begun]
      | cons next lines =>
          rw [begun_cons, ← ih (List.cons_ne_nil _ _)]
          simp [List.intercalate_cons_cons]

theorem intercalate_lines (text : List Char) : ['\n'].intercalate (lines text) = text :=
  (List.cons.inj ((cons_intercalate (lines_ne_nil text)).trans (begun_lines text))).2

theorem not_mem_of_mem_lines (h : line ∈ lines text) : '\n' ∉ line := by
  induction text generalizing line with
  | nil =>
      rw [List.mem_singleton.1 h]
      exact List.not_mem_nil
  | cons c rest ih =>
      by_cases hc : c = '\n'
      · rw [hc, lines_line_feed] at h
        obtain rfl | hrest := List.mem_cons.1 h
        · exact List.not_mem_nil
        · exact ih hrest
      · obtain ⟨first, others, hrest⟩ := List.exists_cons_of_ne_nil (lines_ne_nil rest)
        rw [lines_cons hc hrest] at h
        obtain rfl | hother := List.mem_cons.1 h
        · rw [List.mem_cons, not_or]
          exact ⟨Ne.symm hc, ih (hrest ▸ List.mem_cons_self)⟩
        · exact ih (hrest ▸ List.mem_cons_of_mem _ hother)

theorem lines_append_begun (hline : '\n' ∉ line) {below : List (List Char)}
    (hbelow : ∀ other ∈ below, '\n' ∉ other) : lines (line ++ begun below) = line :: below := by
  induction below generalizing line with
  | nil =>
      rw [begun_nil, List.append_nil]
      exact lines_of_not_mem hline
  | cons next below ih =>
      rw [begun_cons, lines_append_line_feed hline]
      rw [ih (hbelow next List.mem_cons_self)
        fun other h => hbelow other (List.mem_cons_of_mem _ h)]

theorem lines_ended_append {above : List (List Char)} (habove : ∀ other ∈ above, '\n' ∉ other)
    (text : List Char) : lines (ended above ++ text) = above ++ lines text := by
  induction above with
  | nil => rfl
  | cons first above ih =>
      have hfirst : '\n' ∉ first := habove first List.mem_cons_self
      have hshape : ended (first :: above) ++ text = first ++ '\n' :: (ended above ++ text) := by
        simp [ended]
      rw [hshape, lines_append_line_feed hfirst,
        ih fun other h => habove other (List.mem_cons_of_mem _ h), List.cons_append]

/-! ### The two sides of a place -/

theorem exists_ended (text : List Char) :
    ∃ above left, text = ended above ++ left ∧ '\n' ∉ left ∧ ∀ line ∈ above, '\n' ∉ line := by
  have hlines : lines text ≠ [] := lines_ne_nil text
  refine ⟨(lines text).dropLast, (lines text).getLast hlines, ?_, ?_, ?_⟩
  · have htext := begun_lines text
    rw [← List.dropLast_append_getLast hlines, begun_append, begun_cons, begun_nil,
      List.append_nil, begun_append_cons] at htext
    exact (List.cons.inj htext).2.symm
  · exact not_mem_of_mem_lines (List.getLast_mem hlines)
  · exact fun line hline => not_mem_of_mem_lines (List.mem_of_mem_dropLast hline)

theorem exists_begun (text : List Char) :
    ∃ right below, text = right ++ begun below ∧ '\n' ∉ right ∧ ∀ line ∈ below, '\n' ∉ line := by
  obtain ⟨first, others, hlines⟩ := List.exists_cons_of_ne_nil (lines_ne_nil text)
  have hmem {line : List Char} (h : line ∈ first :: others) : '\n' ∉ line :=
    not_mem_of_mem_lines (hlines ▸ h)
  refine ⟨first, others, ?_, hmem List.mem_cons_self, fun line h => hmem (List.mem_cons_of_mem _ h)⟩
  have htext := begun_lines text
  rw [hlines, begun_cons] at htext
  exact (List.cons.inj htext).2.symm

theorem count_ended {above : List (List Char)} (habove : ∀ line ∈ above, '\n' ∉ line) :
    (ended above).count '\n' = above.length := by
  induction above with
  | nil => rfl
  | cons first above ih =>
      have hfirst : first.count '\n' = 0 := List.count_eq_zero.2 (habove first List.mem_cons_self)
      have hrest := ih fun line h => habove line (List.mem_cons_of_mem _ h)
      rw [ended] at hrest
      simp [ended, hfirst, hrest]

theorem lastLineLength_ended_append (above : List (List Char)) {left : List Char}
    (hleft : '\n' ∉ left) : lastLineLength (ended above ++ left) = left.length := by
  have hall : ∀ c ∈ left.reverse, (c != '\n') = true := by
    intro c hc
    rw [bne_iff_ne]
    rintro rfl
    exact hleft (List.mem_reverse.1 hc)
  have hnone : (ended above).reverse.takeWhile (· != '\n') = [] := by
    obtain rfl | ⟨others, line, rfl⟩ := List.eq_nil_or_concat' above
    · rfl
    · simp [ended]
  rw [lastLineLength, List.reverse_append, List.takeWhile_append_of_pos hall, hnone,
    List.append_nil, List.length_reverse]

end MarkupEditor.Text
