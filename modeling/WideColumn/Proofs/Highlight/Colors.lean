import WideColumn.Highlight.Basic
import WideColumn.Proofs.Highlight.Terminal
import WideColumn.Proofs.Text.Split

/-!
# Highlighting only adds colors

The tokens of a line put together are the line, whatever quotes, comments and words it is cut into.
Each is painted alone, and a newline is never part of one. So a highlighted text is the text with
styles that end where their token ends, and it can be highlighted line by line.

Main result: `Highlight.highlight_colors`.
-/

namespace WideColumn.Highlight

open Terminal Text

/-! ## Tokens -/

theorem text_wordToken (language : Language) (word : List Char) :
    (wordToken language word).flatMap Token.text = word.reverse := by
  unfold wordToken
  cases word with
  | nil => rfl
  | cons c word => exact List.append_nil _

/-- The tokens lose nothing of the rest of a line and of the word in front of it. Inside a quoted
text there is no such word. -/
theorem text_tokensFrom (language : Language) {quote : Option Char} {word : List Char}
    (hword : quote = none ∨ word = []) (s : List Char) :
    (tokensFrom language quote word s).flatMap Token.text = word.reverse ++ s := by
  induction s generalizing quote word with
  | nil =>
    rw [tokensFrom, text_wordToken, List.append_nil]
  | cons c r ih =>
    cases quote with
    | some q =>
      obtain rfl : word = [] := hword.resolve_left (Option.some_ne_none q)
      rw [tokensFrom, List.flatMap_cons, ih (.inr rfl)]
      rfl
    | none =>
      rw [tokensFrom]
      split
      · rw [List.flatMap_append, text_wordToken, List.flatMap_singleton]
      split
      · rw [List.flatMap_append, text_wordToken, List.flatMap_cons, ih (.inr rfl)]
        rfl
      split
      · rw [ih (.inl rfl), List.reverse_cons, List.append_assoc]
        rfl
      · rw [List.flatMap_append, text_wordToken, List.flatMap_cons, ih (.inl rfl)]
        rfl

/-- Put together, the tokens of a line are the line. -/
theorem text_tokens (language : Language) (line : List Char) :
    (tokens language line).flatMap Token.text = line :=
  text_tokensFrom language (.inl rfl) line

/-! ## Lines -/

variable (language : Language)

/-- The text can be a part of a line. -/
def IsLine (line : List Char) : Prop := '\x1b' ∉ line ∧ '\n' ∉ line

theorem colors_tokens {ts : List Token} (h : ∀ t ∈ ts, IsLine t.text) :
    Colors (ts.flatMap Token.text) (ts.flatMap fun t => t.style.paint true t.text) := by
  induction ts with
  | nil => exact .shown List.not_mem_nil
  | cons t ts ih =>
    rw [List.forall_mem_cons] at h
    rw [List.flatMap_cons, List.flatMap_cons]
    exact (Colors.paint t.style h.1.1 h.1.2).append (ih h.2)

theorem colors_highlightLine {line : List Char} (h : IsLine line) :
    Colors line (highlightLine language true line) := by
  have htokens : ∀ t ∈ tokens language line, IsLine t.text := by
    intro t ht
    have hsub : t.text ⊆ line := by
      intro c hc
      rw [← text_tokens language line]
      exact List.mem_flatMap.mpr ⟨t, ht, hc⟩
    exact ⟨fun hescape => h.1 (hsub hescape), fun hnewline => h.2 (hsub hnewline)⟩
  have hcolors := colors_tokens htokens
  rwa [text_tokens] at hcolors

theorem colors_lines {lines : List (List Char)} (h : ∀ line ∈ lines, IsLine line) :
    Colors (['\n'].intercalate lines)
      (['\n'].intercalate (lines.map (highlightLine language true))) := by
  induction lines with
  | nil => exact .shown List.not_mem_nil
  | cons line lines ih =>
    rw [List.forall_mem_cons] at h
    have hline := colors_highlightLine language h.1
    cases lines with
    | nil =>
      rw [List.map_singleton, List.intercalate_singleton, List.intercalate_singleton]
      exact hline
    | cons next lines =>
      have hnewline : Colors ['\n'] ['\n'] := .shown (by decide)
      rw [List.map_cons, List.map_cons, List.intercalate_cons_cons, List.intercalate_cons_cons]
      exact (hline.append hnewline).append (ih h.2)

/-! ## Texts -/

theorem toList_highlight (colors : Bool) (text : String) :
    (highlight language true colors text).toList =
      ['\n'].intercalate ((splitAt '\n' text.toList).map (highlightLine language colors)) := by
  rw [highlight, if_pos rfl, String.toList_ofList]

theorem colors_highlight {text : String} (h : '\x1b' ∉ text.toList) :
    Colors text.toList (highlight language true true text).toList := by
  have hlines : ∀ line ∈ splitAt '\n' text.toList, IsLine line := by
    intro line hline
    exact ⟨fun hescape => h ((sublist_of_mem_splitAt hline).subset hescape),
      not_mem_of_mem_splitAt hline⟩
  have hcolors := colors_lines language hlines
  rwa [intercalate_splitAt, ← toList_highlight] at hcolors

/-- Lines are highlighted each by itself. -/
theorem highlight_append_newline (colors : Bool) (a b : String) :
    highlight language true colors (a ++ "\n" ++ b) =
      highlight language true colors a ++ "\n" ++ highlight language true colors b := by
  have htext : (a ++ "\n" ++ b).toList = a.toList ++ '\n' :: b.toList := by simp
  have hlines : ∀ s : List Char, (splitAt '\n' s).map (highlightLine language colors) ≠ [] :=
    fun s => by simpa using splitAt_ne_nil '\n' s
  rw [← String.toList_inj, String.toList_append, String.toList_append, toList_highlight,
    toList_highlight, toList_highlight, htext, splitAt_append_separator, List.map_append,
    intercalate_append _ (hlines _) (hlines _)]
  rfl

/-- A highlighted text is the text when the sequences that set styles are deleted from it. Every
style ends before the next one starts and before its line ends, so lines can be highlighted each by
itself. -/
theorem highlight_colors (language : Language) :
    (∀ text : String, '\x1b' ∉ text.toList →
      withoutSequences (highlight language true true text).toList = text.toList ∧
      ClosesStyles false (pieces (highlight language true true text).toList)) ∧
    ∀ a b : String, highlight language true true (a ++ "\n" ++ b) =
      highlight language true true a ++ "\n" ++ highlight language true true b := by
  refine ⟨fun text htext => ?_, highlight_append_newline language true⟩
  have hcolors := colors_highlight language htext
  exact ⟨hcolors.withoutSequences_eq, hcolors.closesStyles⟩

/-- A quoted text that its line cuts off does not reach the next line. -/
theorem highlight_colors_cut :
    '\x1b' ∉ "new '\n7 // b".toList ∧
    highlight .typeScript true true "new '\n7 // b" =
      "\x1b[1;34mnew\x1b[0m \x1b[32m'\x1b[0m\n\x1b[33m7\x1b[0m \x1b[2m// b\x1b[0m" ∧
    withoutSequences (highlight .typeScript true true "new '\n7 // b").toList =
      "new '\n7 // b".toList ∧
    ClosesStyles false (pieces (highlight .typeScript true true "new '\n7 // b").toList) := by
  have hescape : '\x1b' ∉ "new '\n7 // b".toList := by decide +kernel
  obtain ⟨hshown, hcloses⟩ := (highlight_colors .typeScript).1 _ hescape
  exact ⟨hescape, by decide +kernel, hshown, hcloses⟩

end WideColumn.Highlight
