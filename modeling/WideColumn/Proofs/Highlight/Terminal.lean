import WideColumn.Highlight.Style

/-!
# What a terminal makes of a text

A terminal shows the characters that are sent to it, but for sequences of an escape character, a
bracket, parameters and an `m`, which set the style of what comes next. `pieces` cuts a text into
both, from the front and without any knowledge of how the text was made.

Main definitions: `Terminal.pieces`, `Terminal.ClosesStyles`, `Terminal.Colors`.
Main results: `Terminal.Colors.append`, `Terminal.Colors.paint`.
-/

namespace WideColumn.Terminal

/-! ## Cutting -/

/-- A part of a text that is sent to a terminal. -/
inductive Piece where
  /-- A character that is shown. -/
  | shown (c : Char)
  /-- A sequence that sets the style, by what stands between its bracket and its `m`. -/
  | sequence (parameters : List Char)
  deriving DecidableEq

/-- The character that a piece shows. -/
def Piece.shown? : Piece → Option Char
  | shown c => some c
  | sequence _ => none

/-- The pieces of the rest of a text. `parameters` are those of the sequence that the rest begins
in, last character first. A sequence that does not end is shown. -/
def piecesFrom : (parameters : Option (List Char)) → List Char → List Piece
  | none, '\x1b' :: '[' :: r => piecesFrom (some []) r
  | none, c :: r => .shown c :: piecesFrom none r
  | none, [] => []
  | some parameters, 'm' :: r => .sequence parameters.reverse :: piecesFrom none r
  | some parameters, c :: r => piecesFrom (some (c :: parameters)) r
  | some parameters, [] => ('\x1b' :: '[' :: parameters.reverse).map .shown

/-- The pieces of a text. -/
def pieces (s : List Char) : List Piece := piecesFrom none s

/-- What is left of a text when all sequences are deleted. -/
def withoutSequences (s : List Char) : List Char := (pieces s).filterMap Piece.shown?

/-- Every style that is started ends before the next one starts, before the end of its line and
before the end of the text. `started` says that a style has been started. -/
inductive ClosesStyles : (started : Bool) → List Piece → Prop
  | nil : ClosesStyles false []
  /-- A character that is shown does not end the line of a style. -/
  | shown {started : Bool} {c : Char} {r : List Piece} (h : started = true → c ≠ '\n') :
    ClosesStyles started r → ClosesStyles started (.shown c :: r)
  | start {parameters : List Char} {r : List Piece} (h : parameters ≠ ['0']) :
    ClosesStyles true r → ClosesStyles false (.sequence parameters :: r)
  | reset {r : List Piece} : ClosesStyles false r → ClosesStyles true (.sequence ['0'] :: r)

theorem pieces_shown {s : List Char} (h : '\x1b' ∉ s) (r : List Char) :
    pieces (s ++ r) = s.map .shown ++ pieces r := by
  induction s with
  | nil => rfl
  | cons c s ih =>
    rw [List.mem_cons, not_or] at h
    have hc : pieces (c :: (s ++ r)) = .shown c :: pieces (s ++ r) := by
      rw [pieces, piecesFrom]
      · rfl
      · intro rest hescape _
        exact h.1 hescape.symm
    rw [List.cons_append, hc, ih h.2]
    rfl

theorem piecesFrom_parameters {parameters : List Char} (h : 'm' ∉ parameters)
    (before r : List Char) :
    piecesFrom (some before) (parameters ++ 'm' :: r) =
      .sequence (before.reverse ++ parameters) :: pieces r := by
  induction parameters generalizing before with
  | nil => rw [List.nil_append, piecesFrom, List.append_nil, pieces]
  | cons c parameters ih =>
    rw [List.mem_cons, not_or] at h
    rw [List.cons_append, piecesFrom, ih h.2]
    · simp
    · intro hm
      exact h.1 hm.symm

theorem pieces_sequence {parameters : List Char} (h : 'm' ∉ parameters) (r : List Char) :
    pieces ('\x1b' :: '[' :: (parameters ++ 'm' :: r)) = .sequence parameters :: pieces r := by
  rw [pieces, piecesFrom, piecesFrom_parameters h]
  rfl

/-! ## Styles -/

theorem not_mem_codes (style : Style) : 'm' ∉ style.codes.toList := by
  cases style <;> decide

theorem codes_ne_reset (style : Style) : style.codes.toList ≠ ['0'] := by
  cases style <;> decide

theorem restarted_eq_self (style : Style) {s : List Char} (h : '\x1b' ∉ s) :
    style.restarted s = s := by
  induction s with
  | nil => rfl
  | cons c s ih =>
    rw [List.mem_cons, not_or] at h
    rw [Style.restarted, ih h.2]
    intro rest hescape _
    exact h.1 hescape.symm

theorem closesStyles_started {s : List Char} (h : '\n' ∉ s) {rest : List Piece}
    (hrest : ClosesStyles true rest) : ClosesStyles true (s.map .shown ++ rest) := by
  induction s with
  | nil => exact hrest
  | cons c s ih =>
    rw [List.mem_cons, not_or] at h
    exact .shown (fun _ hc => h.1 hc.symm) (ih h.2)

theorem closesStyles_shown (s : List Char) {rest : List Piece} (hrest : ClosesStyles false rest) :
    ClosesStyles false (s.map .shown ++ rest) := by
  induction s with
  | nil => exact hrest
  | cons c s ih => exact .shown (fun hstarted => absurd hstarted Bool.false_ne_true) ih

theorem filterMap_shown (s : List Char) : (s.map Piece.shown).filterMap Piece.shown? = s := by
  rw [List.filterMap_map]
  exact List.filterMap_some

/-! ## Colors added to a text -/

/-- The painted text is the text with sequences in it, and behind it no style is left. What comes
next is read as if it stood alone, so such texts can be put together. -/
def Colors (text painted : List Char) : Prop :=
  ∃ ps : List Piece, (∀ r, pieces (painted ++ r) = ps ++ pieces r) ∧
    ps.filterMap Piece.shown? = text ∧
    ∀ rest, ClosesStyles false rest → ClosesStyles false (ps ++ rest)

namespace Colors

theorem shown {s : List Char} (h : '\x1b' ∉ s) : Colors s s :=
  ⟨s.map .shown, pieces_shown h, filterMap_shown s, fun _ => closesStyles_shown s⟩

theorem append {s t p q : List Char} (hs : Colors s p) (ht : Colors t q) :
    Colors (s ++ t) (p ++ q) := by
  obtain ⟨ps, hps, hshown, hcloses⟩ := hs
  obtain ⟨qs, hqs, hshown', hcloses'⟩ := ht
  refine ⟨ps ++ qs, fun r => ?_, ?_, fun rest hrest => ?_⟩
  · rw [List.append_assoc, hps, hqs, List.append_assoc]
  · rw [List.filterMap_append, hshown, hshown']
  · rw [List.append_assoc]
    exact hcloses _ (hcloses' rest hrest)

/-- A style that is put around a part of a line is started and ended once. -/
theorem paint (style : Style) {s : List Char} (hescape : '\x1b' ∉ s) (hnewline : '\n' ∉ s) :
    Colors s (style.paint true s) := by
  rw [Style.paint, restarted_eq_self style hescape]
  split
  · refine ⟨.sequence style.codes.toList :: (s.map .shown ++ [.sequence ['0']]), fun r => ?_, ?_,
      fun rest hrest => ?_⟩
    · have hreset : pieces (Style.reset ++ r) = .sequence ['0'] :: pieces r :=
        @pieces_sequence ['0'] (by decide) r
      have hopening : style.opening ++ s ++ Style.reset ++ r =
          '\x1b' :: '[' :: (style.codes.toList ++ 'm' :: (s ++ (Style.reset ++ r))) := by
        simp [Style.opening]
      rw [hopening, pieces_sequence (not_mem_codes style), pieces_shown hescape, hreset]
      simp
    · rw [List.filterMap_cons_none rfl, List.filterMap_append, filterMap_shown]
      exact List.append_nil s
    · have hshown := closesStyles_started hnewline (.reset hrest)
      rw [List.cons_append, List.append_assoc]
      exact .start (codes_ne_reset style) hshown
  · exact shown hescape

/-- The text is what is left without the sequences, and every style is ended. -/
theorem withoutSequences_eq {s p : List Char} (h : Colors s p) : withoutSequences p = s := by
  obtain ⟨ps, hps, hshown, -⟩ := h
  have hpieces := hps []
  rw [List.append_nil] at hpieces
  rw [withoutSequences, hpieces, List.filterMap_append, hshown]
  exact List.append_nil s

theorem closesStyles {s p : List Char} (h : Colors s p) : ClosesStyles false (pieces p) := by
  obtain ⟨ps, hps, -, hcloses⟩ := h
  have hpieces := hps []
  rw [List.append_nil] at hpieces
  rw [hpieces]
  exact hcloses [] .nil

end Colors

end WideColumn.Terminal
