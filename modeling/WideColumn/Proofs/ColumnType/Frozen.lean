import WideColumn.Proofs.ColumnType.RoundTrip
import WideColumn.Proofs.Text.Apart

/-!
# The wrapper `frozen`

`frozen<…>` around a text is read as the text is, whatever the text may be. A text that can stand as
an argument is handed on. Any other text has brackets that do not match, a comma outside of them or
nothing but blanks, and it is unknown by itself. With the wrapper around it, it is unknown too: the
brackets of the whole do not match either, or what is between them is not one argument.

Main result: `parse_frozen`.
-/

namespace WideColumn.TypeTerm

open Text

/-! ## Texts that are no argument -/

theorem IsPart.of_trim {s : List Char} (h : IsPart (trim s)) : IsPart s := by
  obtain ⟨before, after, hbefore, hafter, hs⟩ := exists_pad_trim s
  rw [hs]
  exact h.pad hbefore hafter

/-- The name of a native type is plain, so a word that is not plain is unknown. -/
theorem column?_word_of_not_plain {s : List Char} (h : ¬ (s ≠ [] ∧ s.all isFamilyChar = true))
    (depth : Nat) : column? depth (word (String.ofList s)) = some .unknown := by
  rw [column?]
  split
  · rename_i native hname
    have hs : native.name.toList = s := by
      rw [NativeType.name_of_ofName?_eq_some hname, String.toList_ofList]
    exact absurd (hs ▸ nativeName_plain native) h
  · rfl

/-- A text that cannot stand as an argument is read as a word, and an unknown one. -/
theorem column?_read_of_not_isPart {s : List Char} (h : ¬ IsPart s) (depth : Nat) :
    column? depth (read s) = some .unknown := by
  have htrim : ¬ IsPart (trim s) := fun hpart => h hpart.of_trim
  rcases read_cases s with hread | ⟨name, parts, hfamily, hs, -⟩
  · rw [hread]
    exact column?_word_of_not_plain (fun hplain => htrim (isPart_of_plain hplain.1 hplain.2)) depth
  · rw [hs] at htrim
    exact absurd hfamily.isPart_applied htrim

/-! ## The wrapper -/

theorem isFamily_frozen {s : List Char} (h : IsPart s) : IsFamily "frozen".toList [s] where
  name_ne_nil := by decide
  name_plain := by decide
  parts_ne_nil := by simp
  isPart := by simpa using h

theorem trim_frozen (s : List Char) :
    trim (applied "frozen".toList [s]) = applied "frozen".toList [s] := by
  have hlast : applied "frozen".toList [s] = "frozen<".toList ++ s ++ ['>'] := by simp [applied]
  apply trim_eq_self
  · intro c hc
    obtain rfl : 'f' = c := Option.some.inj hc
    decide
  · intro c hc
    rw [hlast, List.getLast?_concat] at hc
    obtain rfl : '>' = c := Option.some.inj hc
    decide

/-- The wrapper has one argument, or it is unknown. -/
theorem column?_frozen_of_ne {arguments : List TypeTerm} (h : arguments.length ≠ 1) (depth : Nat) :
    column? depth (family "frozen" arguments) = some .unknown := by
  match arguments, h with
  | [], _ => rw [column?]; simp
  | _ :: _ :: _, _ => rw [column?]; simp

/-- A wrapper that is read as a family has the arguments that its text has. -/
theorem parts_of_frozen {s name : List Char} {parts : List (List Char)}
    (hfamily : IsFamily name parts)
    (h : applied "frozen".toList [s] = applied name parts) :
    name = "frozen".toList ∧ s = [','].intercalate parts := by
  have hname : '<' ∉ name := fun hmem => (not_bracket_of_isFamilyChar (hfamily.plain hmem)).1 rfl
  obtain ⟨hfrozen, hinside⟩ := marked_apart (by decide) hname h
  rw [List.intercalate_singleton] at hinside
  exact ⟨hfrozen.symm, List.append_cancel_right hinside⟩

/-- A text that is no argument does not become one by the wrapper around it. -/
theorem column?_read_frozen_of_not_isPart {s : List Char} (h : ¬ IsPart s) (depth : Nat) :
    column? depth (read (applied "frozen".toList [s])) = some .unknown := by
  rcases read_cases (applied "frozen".toList [s]) with hread | ⟨name, parts, hfamily, htrim, hread⟩
  · have hbracket : '<' ∈ applied "frozen".toList [s] := by simp [applied]
    rw [hread, trim_frozen]
    refine column?_word_of_not_plain (fun hplain => ?_) depth
    exact absurd (List.all_eq_true.mp hplain.2 '<' hbracket) (by decide)
  · rw [trim_frozen] at htrim
    obtain ⟨rfl, hs⟩ := parts_of_frozen hfamily htrim
    have hseveral : parts.length ≠ 1 := by
      intro hone
      obtain ⟨p, rfl⟩ := List.length_eq_one_iff.mp hone
      rw [List.intercalate_singleton] at hs
      exact h (hs ▸ hfamily.isPart p List.mem_cons_self)
    rw [hread, String.ofList_toList]
    exact column?_frozen_of_ne (by simpa using hseveral) depth

/-- Inside any number of families the wrapper makes no difference. -/
theorem column?_read_frozen (s : List Char) (depth : Nat) :
    column? depth (read (applied "frozen".toList [s])) = column? depth (read s) := by
  by_cases h : IsPart s
  · rw [(isFamily_frozen h).read_applied]
    exact column?_frozen depth (read s)
  · rw [column?_read_of_not_isPart h, column?_read_frozen_of_not_isPart h]

/-! ## All texts -/

/-- The wrapper `frozen` is transparent on every text, also on one that spells no type. -/
theorem parse_frozen (s : String) :
    ColumnType.parse ("frozen<" ++ s ++ ">") = ColumnType.parse s := by
  have htext : ("frozen<" ++ s ++ ">").toList = applied "frozen".toList [s.toList] := by
    simp [applied]
  have hread := column?_read_frozen (asciiLower s.toList) 0
  rw [ColumnType.parse, htext, asciiLower_applied]
  exact congrArg (Option.getD · ColumnType.unknown) hread

end WideColumn.TypeTerm
