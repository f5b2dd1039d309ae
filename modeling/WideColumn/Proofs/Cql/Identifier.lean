import WideColumn.Cql.Identifier
import WideColumn.Proofs.Text.AsciiCase
import WideColumn.Proofs.Text.Run

/-!
# Reading identifiers

An identifier is a run of plain characters, or anything between double quotes with each quote inside
written twice. A reader takes the longest run, or goes on to a quote that stands alone, so that it
needs to know no more of what follows than that it does not lengthen the identifier.

The database takes capitals outside of quotes as well, but folds them. `foldUnquoted?` is what
becomes of a text there, and a name needs no quotes exactly if it comes out as it went in.

Main definitions: `readIdentifier`, `EndsIdentifier`, `foldUnquoted?`.

* `readIdentifier_quoteIdentifier`: a name is read back, whatever characters it is made of.
* `quoteIdentifier_exact`: besides, the names without quotes are those that folding leaves alone.
-/

namespace WideColumn.Cql

/-! ## The reader -/

/-- Reads what is left of a quoted name after its first quote. -/
def readQuoted : List Char → Option (List Char × List Char)
  | [] => none
  | '"' :: '"' :: r => (readQuoted r).map fun (name, rest) => ('"' :: name, rest)
  | c :: r =>
    if c = '"' then some ([], r)
    else (readQuoted r).map fun (name, rest) => (c :: name, rest)

/-- Reads the identifier at the front of a text, and returns what follows it. -/
def readIdentifier : List Char → Option (String × List Char)
  | [] => none
  | c :: r =>
    if c = '"' then (readQuoted r).map fun (name, rest) => (String.ofList name, rest)
    else if isPlainStart c then
      some (String.ofList (c :: r.takeWhile isPlainRest), r.dropWhile isPlainRest)
    else none

/-- An identifier ends where this text begins: it goes on neither a run nor a quoted name. -/
def EndsIdentifier (rest : List Char) : Prop :=
  ∀ c ∈ rest.head?, c ≠ '"' ∧ isPlainRest c = false

theorem endsIdentifier_cons {c : Char} {rest : List Char} :
    EndsIdentifier (c :: rest) ↔ c ≠ '"' ∧ isPlainRest c = false := by
  simp [EndsIdentifier]

/-! ## Quoted names -/

theorem isPlainStart_quote : isPlainStart '"' = false := by decide

theorem ne_quote_of_isPlainStart {c : Char} (h : isPlainStart c = true) : c ≠ '"' := by
  rintro rfl
  rw [isPlainStart_quote] at h
  exact absurd h (by decide)

theorem readQuoted_doubleQuotes (name : List Char) {rest : List Char} (h : rest.head? ≠ some '"') :
    readQuoted (doubleQuotes name ++ '"' :: rest) = some (name, rest) := by
  induction name with
  | nil =>
    cases rest with
    | nil => simp [doubleQuotes, readQuoted]
    | cons c r =>
      have hc : c ≠ '"' := fun e => h (by rw [e, List.head?_cons])
      rw [doubleQuotes, List.nil_append, readQuoted, if_pos rfl]
      rintro s - e
      exact hc (List.cons.inj e).1
  | cons c name ih =>
    by_cases hc : c = '"'
    · subst hc
      simp [doubleQuotes, readQuoted, ih]
    · have hstep : readQuoted (c :: (doubleQuotes name ++ '"' :: rest)) =
          (readQuoted (doubleQuotes name ++ '"' :: rest)).map fun (s, r) => (c :: s, r) := by
        rw [readQuoted, if_neg hc]
        rintro s e -
        exact hc e
      rw [doubleQuotes, if_neg hc, List.cons_append, hstep, ih]
      rfl

/-! ## Runs -/

theorem exists_run_of_isPlain {s : List Char} (h : isPlain s = true) :
    ∃ c r, s = c :: r ∧ isPlainStart c = true ∧ r.all isPlainRest = true := by
  cases s with
  | nil => simp [isPlain] at h
  | cons c r =>
    rw [isPlain, Bool.and_eq_true] at h
    exact ⟨c, r, rfl, h⟩

theorem readIdentifier_run {c : Char} {r rest : List Char} (hc : isPlainStart c = true)
    (hr : r.all isPlainRest = true) (h : EndsIdentifier rest) :
    readIdentifier (c :: (r ++ rest)) = some (String.ofList (c :: r), rest) := by
  have hquote : c ≠ '"' := ne_quote_of_isPlainStart hc
  have hplain : ∀ d ∈ r, isPlainRest d = true := List.all_eq_true.mp hr
  have hends : ∀ d ∈ rest.head?, isPlainRest d = false := fun d hd => (h d hd).2
  rw [readIdentifier, if_neg hquote, if_pos hc, Text.takeWhile_run hplain hends,
    Text.dropWhile_run hplain hends]

/-! ## The round trip -/

/-- A name is read back from its identifier, and nothing of what follows is taken with it. -/
theorem readIdentifier_quoteIdentifier (name : String) {rest : List Char}
    (h : EndsIdentifier rest) :
    readIdentifier ((quoteIdentifier name).toList ++ rest) = some (name, rest) := by
  unfold quoteIdentifier
  by_cases hplain : isPlain name.toList = true
  · rw [if_pos hplain]
    obtain ⟨c, r, hname, hc, hr⟩ := exists_run_of_isPlain hplain
    rw [hname, List.cons_append, readIdentifier_run hc hr h, ← hname, String.ofList_toList]
  · rw [if_neg hplain, String.toList_ofList, List.append_assoc, List.append_assoc,
      List.singleton_append, List.singleton_append, readIdentifier, if_pos rfl,
      readQuoted_doubleQuotes _ fun e => (h '"' e).1 rfl]
    simp

/-- An identifier begins with a quote or a plain character. -/
theorem quoteIdentifier_eq_cons (name : String) :
    ∃ c r, (quoteIdentifier name).toList = c :: r ∧ (c = '"' ∨ isPlainStart c = true) := by
  unfold quoteIdentifier
  by_cases hplain : isPlain name.toList = true
  · rw [if_pos hplain]
    obtain ⟨c, r, hname, hc, -⟩ := exists_run_of_isPlain hplain
    exact ⟨c, r, hname, .inr hc⟩
  · rw [if_neg hplain, String.toList_ofList]
    exact ⟨'"', _, rfl, .inl rfl⟩

/-! ## Names without quotes -/

/-- A character that a name without quotes may begin with. -/
def isNameStart (c : Char) : Bool := c.isAlpha || c = '_'

/-- A character that a name without quotes may go on with. -/
def isNameRest (c : Char) : Bool := c.isAlphanum || c = '_'

/-- The text is a name without quotes, in whatever case. -/
def isName : List Char → Bool
  | [] => false
  | c :: r => isNameStart c && r.all isNameRest

/-- What the database takes a text without quotes for: a name is folded to small letters, and any
other text is no identifier. -/
def foldUnquoted? (s : List Char) : Option (List Char) :=
  if isName s then some (Text.asciiLower s) else none

theorem isPlainStart_iff {c : Char} :
    isPlainStart c = true ↔ isNameStart c = true ∧ c.toLower = c := by
  have hunder : c = '_' → c.toLower = c := by rintro rfl; rfl
  simp only [isPlainStart, isNameStart, Bool.or_eq_true, decide_eq_true_eq,
    Text.isLower_iff_isAlpha, or_and_right, and_iff_left_of_imp hunder]

theorem isPlainRest_iff {c : Char} :
    isPlainRest c = true ↔ isNameRest c = true ∧ c.toLower = c := by
  have hdigit : c.isDigit = true → c.toLower = c := fun h =>
    (Text.toLower_eq_iff (.inl (Text.toNat_lt_of_isDigit h))).mpr rfl
  have hunder : c = '_' → c.toLower = c := by rintro rfl; rfl
  simp only [isPlainRest, isNameRest, Char.isAlphanum, Bool.or_eq_true, decide_eq_true_eq,
    Text.isLower_iff_isAlpha, or_and_right, and_iff_left_of_imp hdigit, and_iff_left_of_imp hunder]

theorem all_isPlainRest_iff {r : List Char} :
    r.all isPlainRest = true ↔ r.all isNameRest = true ∧ Text.asciiLower r = r := by
  induction r with
  | nil => simp
  | cons c r ih =>
    simp only [List.all_cons, Bool.and_eq_true, isPlainRest_iff, ih, Text.asciiLower_cons,
      List.cons.injEq, and_and_and_comm]

/-- The plain names are the names that folding leaves alone. -/
theorem foldUnquoted?_eq_self_iff {s : List Char} :
    foldUnquoted? s = some s ↔ isPlain s = true := by
  have hplain : isPlain s = true ↔ isName s = true ∧ Text.asciiLower s = s := by
    cases s with
    | nil => simp [isPlain, isName]
    | cons c r =>
      simp only [isPlain, isName, Bool.and_eq_true, isPlainStart_iff, all_isPlainRest_iff,
        Text.asciiLower_cons, List.cons.injEq, and_and_and_comm]
  rw [hplain, foldUnquoted?]
  simp

/-- An identifier does not begin with a quote exactly if it is a plain name. -/
theorem head?_quoteIdentifier_ne_quote_iff {name : String} :
    (quoteIdentifier name).toList.head? ≠ some '"' ↔ isPlain name.toList = true := by
  unfold quoteIdentifier
  split
  · rename_i hplain
    obtain ⟨c, r, hname, hc, -⟩ := exists_run_of_isPlain hplain
    have hquote : c ≠ '"' := ne_quote_of_isPlainStart hc
    refine iff_of_true ?_ hplain
    rw [hname, List.head?_cons]
    exact fun e => hquote (Option.some.inj e)
  · rename_i hplain
    simpa using hplain

/-- A name is read back from its identifier, whatever may follow. The identifier has no quotes
exactly if the name is one that the database does not change without them. -/
theorem quoteIdentifier_exact (name : String) {rest : List Char} (h : EndsIdentifier rest) :
    readIdentifier ((quoteIdentifier name).toList ++ rest) = some (name, rest) ∧
      ((quoteIdentifier name).toList.head? ≠ some '"' ↔
        foldUnquoted? name.toList = some name.toList) :=
  ⟨readIdentifier_quoteIdentifier name h,
    head?_quoteIdentifier_ne_quote_iff.trans foldUnquoted?_eq_self_iff.symm⟩

/-- A name between quotes of its own, and one that would be folded. -/
theorem quoteIdentifier_exact_quotes :
    EndsIdentifier ".t".toList ∧
      quoteIdentifier "\"Zoë\n\"" = "\"\"\"Zoë\n\"\"\"" ∧
      readIdentifier ((quoteIdentifier "\"Zoë\n\"").toList ++ ".t".toList) =
        some ("\"Zoë\n\"", ".t".toList) ∧
      foldUnquoted? "roomId".toList = some "roomid".toList ∧
      (quoteIdentifier "roomId").toList.head? = some '"' := by
  have hrest : EndsIdentifier ".t".toList := endsIdentifier_cons.mpr (by decide)
  have hfold : foldUnquoted? "roomId".toList = some "roomid".toList := by decide
  refine ⟨hrest, by decide, (quoteIdentifier_exact _ hrest).1, hfold, ?_⟩
  have hchanged : foldUnquoted? "roomId".toList ≠ some "roomId".toList := by
    rw [hfold]
    decide
  exact Classical.not_not.mp (mt (quoteIdentifier_exact "roomId" hrest).2.mp hchanged)

end WideColumn.Cql
