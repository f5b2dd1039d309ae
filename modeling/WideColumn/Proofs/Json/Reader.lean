import WideColumn.Proofs.Json.Token

/-!
# Reading undoes writing

A document is read as the value that it is a way to write, however it is written. The cut takes a
spelling apart into the tokens of its value, by induction on the spelling; and the machine that puts
tokens together goes through those of a value without touching what was open before, by induction on
the value.

Main definition: `Value.tokens`.
Main results: `Spells.cutsInto`, `State.run_tokens`, `parse?_of_spells`.
-/

namespace WideColumn.Json

open Text

/-! ## The tokens of a value -/

namespace Value

mutual

/-- The tokens of a value. -/
def tokens : Value → List Token
  | null => [.null]
  | bool b => [.bool b]
  | number n => [.number n]
  | string text => [.string text]
  | array elements => .openArray :: (separated elements ++ [.closeArray])
  | object members => .openObject :: (separatedMembers members ++ [.closeObject])

/-- The tokens of several values, with a comma between neighbours. -/
def separated : List Value → List Token
  | [] => []
  | [v] => v.tokens
  | v :: w :: r => v.tokens ++ ([.comma] ++ separated (w :: r))

/-- The tokens of several members, with a comma between neighbours. -/
def separatedMembers : List (Option String × Value) → List Token
  | [] => []
  | [(k, v)] => .string k :: .colon :: v.tokens
  | (k, v) :: m :: r => (.string k :: .colon :: v.tokens) ++ ([.comma] ++ separatedMembers (m :: r))

end

end Value

/-! ## Cutting a spelling -/

theorem cutsInto_string {s : List Char} {text : String} (h : SpellsText s text.toList) :
    CutsInto ('"' :: (s ++ ['"'])) [.string (some text)] := by
  intro rest _
  have hstring := tokens?_string h rest
  rw [String.ofList_toList] at hstring
  rw [Cuts, List.cons_append, List.append_assoc]
  exact hstring

/-- A key, a colon and a value. -/
theorem CutsInto.member {before key after s : List Char} {text : String} {ts : List Token}
    (hbefore : IsSpacing before) (hkey : SpellsText key text.toList) (hafter : IsSpacing after)
    (h : CutsInto s ts) :
    CutsInto (before ++ '"' :: (key ++ '"' :: (after ++ ':' :: s)))
      (.string (some text) :: .colon :: ts) := by
  intro rest hrest
  have hmark : punctuation? ':' = some .colon := rfl
  have hcolon := (cuts_mark hmark rfl _).append (h rest hrest)
  have hname := (cutsInto_string hkey).spaced hbefore hafter
  have hall := (hname _ (endsToken_cons (by decide) _)).append hcolon
  simpa using hall

theorem commaSeparated_cons_cons (p q : List Char) (rest : List (List Char)) :
    commaSeparated (p :: q :: rest) = p ++ ([','] ++ commaSeparated (q :: rest)) := by
  unfold commaSeparated
  rw [List.intercalate_cons_cons, List.append_assoc]

mutual

/-- A spelling is cut into the tokens of its value. -/
theorem Spells.cutsInto : ∀ {s : List Char} {v : Value}, Spells s v → CutsInto s v.tokens
  | _, _, .null => fun _ => tokens?_word rfl (by decide)
  | _, _, .true => fun _ => tokens?_word rfl (by decide)
  | _, _, .false => fun _ => tokens?_word rfl (by decide)
  | _, _, .number hn => fun _ => tokens?_number hn
  | _, _, .string htext => cutsInto_string htext
  | _, _, .emptyArray hbetween =>
      CutsInto.enclosed (fun s _ => cuts_spacing hbetween s) rfl rfl rfl (by decide)
  | _, _, .array hparts => hparts.cutsInto.enclosed rfl rfl rfl (by decide)
  | _, _, .emptyObject hbetween =>
      CutsInto.enclosed (fun s _ => cuts_spacing hbetween s) rfl rfl rfl (by decide)
  | _, _, .object hparts => hparts.cutsInto.enclosed rfl rfl rfl (by decide)
  | _, _, .spaced hbefore hafter hs => hs.cutsInto.spaced hbefore hafter

theorem SpellsAll.cutsInto : ∀ {parts : List (List Char)} {elements : List Value},
    SpellsAll parts elements → CutsInto (commaSeparated parts) (Value.separated elements)
  | _, _, .nil => fun s _ => cuts_nil s
  | _, _, .cons hs hrest => by
      have hfirst := hs.cutsInto
      have hothers := hrest.cutsInto
      cases hrest with
      | nil =>
        rw [commaSeparated, List.intercalate_singleton]
        exact hfirst
      | cons =>
        rw [commaSeparated_cons_cons]
        exact hfirst.comma hothers

theorem SpellsMembers.cutsInto : ∀ {parts : List (List Char)}
    {members : List (Option String × Value)}, SpellsMembers parts members →
      CutsInto (commaSeparated parts) (Value.separatedMembers members)
  | _, _, .nil => fun s _ => cuts_nil s
  | _, _, .cons hbefore hkey hafter hs hrest => by
      have hfirst := hs.cutsInto.member hbefore hkey hafter
      have hothers := hrest.cutsInto
      cases hrest with
      | nil =>
        rw [commaSeparated, List.intercalate_singleton]
        exact hfirst
      | cons =>
        rw [commaSeparated_cons_cons]
        exact hfirst.comma hothers

end

/-! ## Putting tokens together -/

namespace State

variable {stack : List Frame} {ts : List Token}

theorem run_cons {state next : State} {token : Token} (h : state.step token = some next) :
    state.run (token :: ts) = next.run ts := by
  rw [run, h, Option.bind_some]

mutual

/-- The tokens of a value are read as the value, and what is open around it stays as it is. -/
theorem run_tokens (v : Value) (isFirst : Bool) (stack : List Frame) (ts : List Token) :
    (value isFirst stack).run (v.tokens ++ ts) = (after v stack).run ts := by
  cases v with
  | null => exact run_cons rfl
  | bool b => exact run_cons rfl
  | number n => exact run_cons rfl
  | string text => exact run_cons rfl
  | array elements =>
    rw [Value.tokens, List.cons_append, List.append_assoc, run_cons rfl]
    cases elements with
    | nil => exact run_cons rfl
    | cons v r => exact run_separated v r [] true stack ts
  | object members =>
    rw [Value.tokens, List.cons_append, List.append_assoc, run_cons rfl]
    cases members with
    | nil => exact run_cons rfl
    | cons m r => exact run_separatedMembers m r [] true stack ts
termination_by sizeOf v

/-- Elements are put behind those that were read. -/
theorem run_separated (v : Value) (r read : List Value) (isFirst : Bool) (stack : List Frame)
    (ts : List Token) :
    (value isFirst (.array read :: stack)).run
        (Value.separated (v :: r) ++ (Token.closeArray :: ts)) =
      (after (.array (read.reverse ++ v :: r)) stack).run ts := by
  cases r with
  | nil =>
    rw [Value.separated, run_tokens, run_cons rfl]
    simp
  | cons w r =>
    rw [Value.separated, List.append_assoc, run_tokens, List.append_assoc, List.singleton_append,
      run_cons rfl, run_separated]
    simp
termination_by sizeOf (v :: r)

theorem run_separatedMembers (m : Option String × Value) (r read : List (Option String × Value))
    (isFirst : Bool) (stack : List Frame) (ts : List Token) :
    (key isFirst read stack).run
        (Value.separatedMembers (m :: r) ++ (Token.closeObject :: ts)) =
      (after (.object (read.reverse ++ m :: r)) stack).run ts := by
  obtain ⟨k, v⟩ := m
  cases r with
  | nil =>
    rw [Value.separatedMembers, List.cons_append, List.cons_append, run_cons rfl, run_cons rfl,
      run_tokens, run_cons rfl]
    simp
  | cons n r =>
    rw [Value.separatedMembers, List.cons_append, List.cons_append, List.cons_append,
      List.cons_append, run_cons rfl, run_cons rfl, List.append_assoc, run_tokens,
      List.append_assoc, List.singleton_append, run_cons rfl, run_separatedMembers]
    simp
termination_by sizeOf (m :: r)

end

end State

/-- A document is read as the value that it is a way to write. -/
theorem parse?_of_spells {s : List Char} {v : Value} (h : Spells s v) : parse? s = some v := by
  have hcut := h.cutsInto [] endsToken_nil
  rw [Cuts, List.append_nil] at hcut
  have hread := State.run_tokens v false [] []
  rw [List.append_nil] at hread
  simp only [parse?, hcut, tokens?, Option.map_some, List.append_nil, Option.bind_some, hread,
    State.run]

end WideColumn.Json
