import WideColumn.Proofs.Script.Cut

/-!
# Reading script expressions

The reader has one function for each rule of JavaScript's grammar that the fragment uses: an
expression is an arrow function, a condition or an operand, and an operand is a name, an array, a
new object or an expression in parentheses, with any number of members, elements and calls after
it. What it does not know, such as an operator or a statement, it refuses.

Every function returns what is left of the tokens. A call on what another call left checks that some
token is gone, which is always so and is there for the termination.

Main definitions: `readExpr?`, `Expr.read?`.
Main result: `Expr.read?_text`, the text of a readable expression is read as that expression.
-/

namespace WideColumn.Script

/-! ## The reader -/

/-- Reads the parameter list of an arrow function and the arrow. -/
def readParameter? : List Token → Option (Binding × List Token)
  | .mark .openRound :: .word name :: .mark .closeRound :: .mark .arrow :: r =>
    if (Binding.whole name).isReadable then some (.whole name, r) else none
  | .mark .openRound :: .mark .openSquare :: .word first :: .mark .comma :: .word second ::
      .mark .closeSquare :: .mark .closeRound :: .mark .arrow :: r =>
    if (Binding.pair first second).isReadable then some (.pair first second, r) else none
  | _ => none

theorem length_readParameter? {ts r : List Token} {parameter : Binding}
    (h : readParameter? ts = some (parameter, r)) : r.length < ts.length := by
  unfold readParameter? at h
  split at h
  · split at h
    · obtain ⟨-, rfl⟩ := Prod.mk.inj (Option.some.inj h)
      simp only [List.length_cons]
      omega
    · contradiction
  · split at h
    · obtain ⟨-, rfl⟩ := Prod.mk.inj (Option.some.inj h)
      simp only [List.length_cons]
      omega
    · contradiction
  · contradiction

mutual

/-- Reads an expression. -/
def readExpr? (ts : List Token) : Option (Expr × List Token) :=
  -- Only the arrow tells a parameter list from an operand in parentheses.
  match _h : readParameter? ts with
  | some (parameter, r) => (readExpr? r).map fun (body, s) => (.arrow parameter body, s)
  | none =>
    match readOperand? ts with
    | some (subject, .mark .equals :: .word "null" :: .mark .question :: r) =>
      if _h : r.length < ts.length then
        match readExpr? r with
        | some (whenNull, .mark .colon :: s) =>
          if _h : s.length < ts.length then
            (readExpr? s).map fun (otherwise, u) => (.ifNull subject whenNull otherwise, u)
          else none
        | _ => none
      else none
    | result => result
termination_by (ts.length, 1)
decreasing_by
  · exact Prod.Lex.left _ _ (length_readParameter? ‹_›)
  · exact Prod.Lex.right _ (by omega)
  · exact Prod.Lex.left _ _ ‹_›
  · exact Prod.Lex.left _ _ ‹_›

/-- Reads an operand, with everything that belongs to it. -/
def readOperand? : List Token → Option (Expr × List Token)
  | .word "new" :: .word className :: .mark .openRound :: r =>
    if isName className then
      match readItems? .closeRound r with
      | some (arguments, s) =>
        if _h : s.length < r.length then readSuffixes? (.create className arguments) s else none
      | none => none
    else none
  | .word name :: r => if isName name then readSuffixes? (.ident name) r else none
  | .mark .openSquare :: r =>
    match readItems? .closeSquare r with
    | some (elements, s) =>
      if _h : s.length < r.length then readSuffixes? (.array elements) s else none
    | none => none
  | .mark .openRound :: r =>
    -- The parentheses leave no trace, so what is in them is an operand like any other.
    match readExpr? r with
    | some (e, .mark .closeRound :: s) =>
      if _h : s.length < r.length then readSuffixes? e s else none
    | _ => none
  | _ => none
termination_by ts => (ts.length, 0)
decreasing_by
  all_goals
    apply Prod.Lex.left
    simp only [List.length_cons]
    omega

/-- Reads the members, elements and calls after an operand. -/
def readSuffixes? (e : Expr) : List Token → Option (Expr × List Token)
  | .mark .point :: .word property :: r => readSuffixes? (.member e property) r
  | .mark .openSquare :: .number index :: .mark .closeSquare :: r => readSuffixes? (.item e index) r
  | .mark .openRound :: r =>
    match readItems? .closeRound r with
    | some (arguments, s) =>
      if _h : s.length < r.length then readSuffixes? (.call e arguments) s else none
    | none => none
  | ts => some (e, ts)
termination_by ts => (ts.length, 0)
decreasing_by
  all_goals
    apply Prod.Lex.left
    simp only [List.length_cons]
    omega

/-- Reads expressions up to a bracket. There may be none. -/
def readItems? (closing : Mark) (ts : List Token) : Option (List Expr × List Token) :=
  if ts.head? = some (.mark closing) then some ([], ts.tail) else readMore? closing ts
termination_by (ts.length, 3)
decreasing_by exact Prod.Lex.right _ (by omega)

/-- Reads one expression and those after it, up to a bracket. -/
def readMore? (closing : Mark) (ts : List Token) : Option (List Expr × List Token) :=
  match readExpr? ts with
  | some (e, .mark m :: r) =>
    if m = closing then some ([e], r)
    else if _h : m = .comma ∧ r.length < ts.length then
      (readMore? closing r).map fun (es, s) => (e :: es, s)
    else none
  | _ => none
termination_by (ts.length, 2)
decreasing_by
  · exact Prod.Lex.right _ (by omega)
  · exact Prod.Lex.left _ _ (‹_ ∧ _›).2

end

/-! ## Where an expression ends -/

/-- Nothing in front of these tokens goes on: they are none, or begin with a closing bracket, a
comma or a colon. -/
def EndsExpr (ts : List Token) : Prop :=
  ∀ t ∈ ts.head?, t ∈ [.mark .closeRound, .mark .closeSquare, .mark .comma, .mark .colon]

theorem endsExpr_cons {m : Mark} (h : m ∈ [.closeRound, .closeSquare, .comma, .colon])
    (ts : List Token) : EndsExpr (.mark m :: ts) := by
  intro t ht
  obtain rfl := Option.some.inj ht
  simpa using h

theorem endsExpr_of_closing {closing : Mark} (h : closing ∈ [.closeRound, .closeSquare])
    (ts : List Token) : EndsExpr (.mark closing :: ts) := by
  simp only [List.mem_cons, List.not_mem_nil, or_false] at h
  rcases h with rfl | rfl <;> exact endsExpr_cons (by decide) ts

theorem EndsExpr.cases {ts : List Token} (h : EndsExpr ts) :
    ts = [] ∨ ∃ m r, ts = .mark m :: r ∧ m ∈ [.closeRound, .closeSquare, .comma, .colon] := by
  cases ts with
  | nil => exact .inl rfl
  | cons t r =>
    have ht := h t rfl
    simp only [List.mem_cons, List.not_mem_nil, or_false] at ht
    rcases ht with rfl | rfl | rfl | rfl <;> exact .inr ⟨_, r, rfl, by decide⟩

theorem readSuffixes?_of_endsExpr (e : Expr) {ts : List Token} (h : EndsExpr ts) :
    readSuffixes? e ts = some (e, ts) := by
  rcases h.cases with rfl | ⟨m, r, rfl, hm⟩
  · rw [readSuffixes?.eq_def]
  · simp only [List.mem_cons, List.not_mem_nil, or_false] at hm
    rcases hm with rfl | rfl | rfl | rfl <;> rw [readSuffixes?.eq_def]

/-! ## One step of the reader -/

/-- What is left after a token is shorter than what the token was in. -/
theorem length_rest_lt (ts : List Token) (t : Token) (r : List Token) :
    r.length < (ts ++ t :: r).length := by
  rw [List.length_append, List.length_cons]
  omega

theorem readOperand?_name {name : String} (h : isName name = true) (r : List Token) :
    readOperand? (.word name :: r) = readSuffixes? (.ident name) r := by
  have hnew : name ≠ "new" := by
    rintro rfl
    exact absurd h (by decide)
  rw [readOperand?, if_pos h]
  exact fun _ _ _ => hnew

/-- An operand is an expression where nothing goes on and no arrow function begins. -/
theorem readExpr?_of_operand {ts r : List Token} {e : Expr} (hparameter : readParameter? ts = none)
    (hoperand : readOperand? ts = some (e, r)) (h : EndsExpr r) : readExpr? ts = some (e, r) := by
  rw [readExpr?]
  split
  · rename_i heq
    rw [hparameter] at heq
    contradiction
  · rw [hoperand]
    rcases h.cases with rfl | ⟨m, r, rfl, hm⟩
    · rfl
    · simp only [List.mem_cons, List.not_mem_nil, or_false] at hm
      rcases hm with rfl | rfl | rfl | rfl <;> rfl

theorem readExpr?_arrow {parameter : Binding} {body : Expr} {ts r s : List Token}
    (hparameter : readParameter? ts = some (parameter, r)) (h : readExpr? r = some (body, s)) :
    readExpr? ts = some (.arrow parameter body, s) := by
  rw [readExpr?]
  split
  · rename_i heq
    rw [hparameter] at heq
    cases heq
    rw [h]
    rfl
  · rename_i heq
    rw [hparameter] at heq
    contradiction

/-- The two branches of a condition are read one after the other. -/
theorem readExpr?_condition {name : String} {whenNull otherwise : Expr} {ts r s : List Token}
    (hname : isName name = true)
    (hwhenNull : readExpr? (ts ++ .mark .colon :: r) = some (whenNull, .mark .colon :: r))
    (hotherwise : readExpr? r = some (otherwise, s)) :
    readExpr? (.word name :: .mark .equals :: .word "null" :: .mark .question ::
      (ts ++ .mark .colon :: r)) = some (.ifNull (.ident name) whenNull otherwise, s) := by
  have hsubject (u : List Token) : readOperand? (.word name :: .mark .equals :: u) =
      some (.ident name, .mark .equals :: u) := by
    rw [readOperand?_name hname, readSuffixes?.eq_def]
  have hlength : r.length < (Token.word name :: .mark .equals :: .word "null" ::
      .mark .question :: (ts ++ .mark .colon :: r)).length := by
    have hrest := length_rest_lt ts (.mark .colon) r
    simp only [List.length_cons]
    omega
  rw [readExpr?]
  split
  · rename_i heq
    exact absurd heq (by simp [readParameter?])
  · simp only [hsubject, hwhenNull, hotherwise, Option.map_some]
    rw [dif_pos (by simp only [List.length_cons]; omega), dif_pos hlength]

theorem readOperand?_round {e : Expr} {ts r : List Token}
    (h : readExpr? (ts ++ .mark .closeRound :: r) = some (e, .mark .closeRound :: r)) :
    readOperand? (.mark .openRound :: (ts ++ .mark .closeRound :: r)) = readSuffixes? e r := by
  rw [readOperand?, h]
  exact dif_pos (length_rest_lt ts _ r)

theorem readOperand?_square {es : List Expr} {ts r : List Token}
    (h : readItems? .closeSquare (ts ++ .mark .closeSquare :: r) = some (es, r)) :
    readOperand? (.mark .openSquare :: (ts ++ .mark .closeSquare :: r)) =
      readSuffixes? (.array es) r := by
  rw [readOperand?, h]
  exact dif_pos (length_rest_lt ts _ r)

theorem readOperand?_new {className : String} {arguments : List Expr} {ts r : List Token}
    (hclass : isName className = true)
    (h : readItems? .closeRound (ts ++ .mark .closeRound :: r) = some (arguments, r)) :
    readOperand? (.word "new" :: .word className :: .mark .openRound ::
      (ts ++ .mark .closeRound :: r)) = readSuffixes? (.create className arguments) r := by
  rw [readOperand?, if_pos hclass, h]
  exact dif_pos (length_rest_lt ts _ r)

theorem readSuffixes?_call (e : Expr) {arguments : List Expr} {ts r : List Token}
    (h : readItems? .closeRound (ts ++ .mark .closeRound :: r) = some (arguments, r)) :
    readSuffixes? e (.mark .openRound :: (ts ++ .mark .closeRound :: r)) =
      readSuffixes? (.call e arguments) r := by
  rw [readSuffixes?, h]
  exact dif_pos (length_rest_lt ts _ r)

/-- No expression begins with a closing bracket. -/
theorem readExpr?_closing {closing : Mark} (h : closing ∈ [.closeRound, .closeSquare])
    (r : List Token) : readExpr? (.mark closing :: r) = none := by
  simp only [List.mem_cons, List.not_mem_nil, or_false] at h
  rcases h with rfl | rfl <;> simp [readExpr?, readParameter?, readOperand?]

theorem readItems?_of_readMore? {closing : Mark} (h : closing ∈ [.closeRound, .closeSquare])
    {ts r : List Token} {es : List Expr} (hmore : readMore? closing ts = some (es, r)) :
    readItems? closing ts = some (es, r) := by
  rw [readItems?, if_neg, hmore]
  intro hhead
  obtain ⟨u, rfl⟩ := List.head?_eq_some_iff.mp hhead
  rw [readMore?, readExpr?_closing h] at hmore
  contradiction

theorem readMore?_last {closing : Mark} {e : Expr} {ts r : List Token}
    (h : readExpr? ts = some (e, .mark closing :: r)) :
    readMore? closing ts = some ([e], r) := by
  rw [readMore?, h]
  exact if_pos rfl

theorem readMore?_comma {closing : Mark} {e : Expr} {es : List Expr} {ts r s : List Token}
    (hclosing : closing ∈ [.closeRound, .closeSquare])
    (h : readExpr? (ts ++ .mark .comma :: r) = some (e, .mark .comma :: r))
    (hrest : readMore? closing r = some (es, s)) :
    readMore? closing (ts ++ .mark .comma :: r) = some (e :: es, s) := by
  have hcomma : Mark.comma ≠ closing := by
    rintro rfl
    exact absurd hclosing (by decide)
  have hlength := length_rest_lt ts (.mark .comma) r
  rw [readMore?, h]
  show (if Mark.comma = closing then _ else if _h : _ then _ else none) = _
  rw [if_neg hcomma, dif_pos ⟨rfl, hlength⟩, hrest]
  rfl

/-! ## Printing and reading -/

/-- The parameter of an arrow function is read in front of its body. -/
theorem readParameter?_tokens {parameter : Binding} (h : parameter.isReadable = true)
    (r : List Token) :
    readParameter? (parameter.tokens ++ .mark .arrow :: r) = some (parameter, r) := by
  cases parameter with
  | whole name => exact if_pos h
  | pair first second => exact if_pos h

namespace Expr

/-- No operand begins like an arrow function, not even one that is an arrow function in
parentheses. -/
theorem readParameter?_grouped (e : Expr) (h : e.isReadable = true) (r : List Token) :
    readParameter? (grouped (!e.isClosed) e.tokens ++ r) = none := by
  cases e with
  | ident name => rfl
  | member object property =>
    rw [isReadable, Bool.and_eq_true] at h
    show readParameter? (grouped _ object.tokens ++ _ ++ r) = none
    rw [List.append_assoc, readParameter?_grouped object h.1]
  | item object index =>
    show readParameter? (grouped _ object.tokens ++ _ ++ r) = none
    rw [List.append_assoc, readParameter?_grouped object h]
  | call callee arguments =>
    rw [isReadable, Bool.and_eq_true] at h
    show readParameter? (grouped _ callee.tokens ++ _ ++ r) = none
    rw [List.append_assoc, readParameter?_grouped callee h.1]
  | create className arguments => rfl
  | array elements => rfl
  | arrow parameter body => cases parameter <;> rfl
  | ifNull subject whenNull otherwise =>
    cases subject with
    | ident name => rfl
    | _ => exact absurd h (by simp [isReadable])

/-- The tokens of the expression are read as the expression. If it ends where its last token ends,
it is an operand, and what follows goes on from there. -/
structure ReadsBack (e : Expr) : Prop where
  operand : e.isClosed = true → ∀ r, readOperand? (e.tokens ++ r) = readSuffixes? e r
  expr : ∀ r, EndsExpr r → readExpr? (e.tokens ++ r) = some (e, r)

/-- Parentheses make an operand of every expression. -/
theorem ReadsBack.grouped {e : Expr} (h : e.ReadsBack) (r : List Token) :
    readOperand? (grouped (!e.isClosed) e.tokens ++ r) = readSuffixes? e r := by
  cases hclosed : e.isClosed with
  | true => exact h.operand hclosed r
  | false =>
    have htokens : Script.grouped (!false) e.tokens ++ r =
        .mark .openRound :: (e.tokens ++ .mark .closeRound :: r) := by
      simp [Script.grouped]
    rw [htokens]
    exact readOperand?_round (h.expr _ (endsExpr_cons (by decide) r))

/-- An operand is an expression. -/
theorem ReadsBack.of_operand {e : Expr} (h : e.isReadable = true) (hclosed : e.isClosed = true)
    (hoperand : ∀ r, readOperand? (e.tokens ++ r) = readSuffixes? e r) : e.ReadsBack where
  operand _ := hoperand
  expr r hr := by
    have hparameter := readParameter?_grouped e h r
    rw [hclosed] at hparameter
    exact readExpr?_of_operand hparameter ((hoperand r).trans (readSuffixes?_of_endsExpr e hr)) hr

theorem isClosed_of_isCondition {e : Expr} (h : e.isCondition = true) : e.isClosed = false := by
  cases e with
  | ifNull subject whenNull otherwise => rfl
  | _ => contradiction

/-- A condition is read in parentheses where it is the body of an arrow function. -/
theorem ReadsBack.body {e : Expr} (hback : e.ReadsBack) (h : e.isReadable = true)
    {r : List Token} (hr : EndsExpr r) :
    readExpr? (Script.grouped e.isCondition e.tokens ++ r) = some (e, r) := by
  cases hcondition : e.isCondition with
  | false => exact hback.expr r hr
  | true =>
    -- The parentheses that a condition needs here are those that it needs as an operand.
    have hparameter := readParameter?_grouped e h r
    have hoperand := (hback.grouped r).trans (readSuffixes?_of_endsExpr e hr)
    rw [isClosed_of_isCondition hcondition] at hparameter hoperand
    exact readExpr?_of_operand hparameter hoperand hr

mutual

/-- Every readable expression is read back, by its structure. -/
theorem readsBack (e : Expr) (h : e.isReadable = true) : e.ReadsBack := by
  cases e with
  | ident name => exact .of_operand h rfl fun r => readOperand?_name h r
  | member object property =>
    refine .of_operand h rfl fun r => ?_
    rw [isReadable, Bool.and_eq_true] at h
    rw [tokens, List.append_assoc, (readsBack object h.1).grouped]
    exact readSuffixes?.eq_1 ..
  | item object index =>
    refine .of_operand h rfl fun r => ?_
    rw [isReadable] at h
    rw [tokens, List.append_assoc, (readsBack object h).grouped]
    exact readSuffixes?.eq_2 ..
  | call callee arguments =>
    refine .of_operand h rfl fun r => ?_
    rw [isReadable, Bool.and_eq_true] at h
    have hitems := readItems?_separated arguments h.2 .closeRound (by decide) r
    rw [tokens, List.append_assoc, (readsBack callee h.1).grouped, ← readSuffixes?_call _ hitems]
    simp
  | create className arguments =>
    refine .of_operand h rfl fun r => ?_
    rw [isReadable, Bool.and_eq_true] at h
    have hitems := readItems?_separated arguments h.2 .closeRound (by decide) r
    rw [← readOperand?_new h.1 hitems]
    simp [tokens]
  | array elements =>
    refine .of_operand h rfl fun r => ?_
    have hitems := readItems?_separated elements h .closeSquare (by decide) r
    rw [← readOperand?_square hitems]
    simp [tokens]
  | arrow parameter body =>
    rw [isReadable, Bool.and_eq_true] at h
    refine ⟨fun hclosed => absurd hclosed (by simp [isClosed]), fun r hr => ?_⟩
    have hparameter := readParameter?_tokens h.1 (Script.grouped body.isCondition body.tokens ++ r)
    rw [tokens, List.append_assoc]
    exact readExpr?_arrow hparameter ((readsBack body h.2).body h.2 hr)
  | ifNull subject whenNull otherwise =>
    cases subject with
    | ident name =>
      simp only [isReadable, Bool.and_eq_true] at h
      refine ⟨fun hclosed => absurd hclosed (by simp [isClosed]), fun r hr => ?_⟩
      have hotherwise := (readsBack otherwise h.2).expr r hr
      have hwhenNull := (readsBack whenNull h.1.2).expr (.mark .colon :: (otherwise.tokens ++ r))
        (endsExpr_cons (by decide) _)
      rw [← readExpr?_condition h.1.1 hwhenNull hotherwise]
      simp [tokens]
    | _ => exact absurd h (by simp [isReadable])

/-- Expressions with commas between them are read up to the bracket. -/
theorem readItems?_separated (es : List Expr) (h : allReadable es = true) (closing : Mark)
    (hclosing : closing ∈ [.closeRound, .closeSquare]) (r : List Token) :
    readItems? closing (separated es ++ .mark closing :: r) = some (es, r) := by
  cases es with
  | nil =>
    rw [separated, List.nil_append, readItems?]
    exact if_pos rfl
  | cons e es =>
    rw [allReadable, Bool.and_eq_true] at h
    have hmore := readMore?_separated es h.2 closing hclosing r (readsBack e h.1)
    exact readItems?_of_readMore? hclosing hmore

theorem readMore?_separated (es : List Expr) (h : allReadable es = true) (closing : Mark)
    (hclosing : closing ∈ [.closeRound, .closeSquare]) (r : List Token) {e : Expr}
    (he : e.ReadsBack) :
    readMore? closing (separated (e :: es) ++ .mark closing :: r) = some (e :: es, r) := by
  cases es with
  | nil => exact readMore?_last (he.expr _ (endsExpr_of_closing hclosing r))
  | cons f es =>
    rw [allReadable, Bool.and_eq_true] at h
    have hrest := readMore?_separated es h.2 closing hclosing r (readsBack f h.1)
    rw [separated, List.append_assoc]
    exact readMore?_comma hclosing (he.expr _ (endsExpr_cons (by decide) _)) hrest

end

/-! ## Texts -/

/-- The expression that a text is. -/
def read? (text : String) : Option Expr :=
  match tokens? text.toList with
  | some ts =>
    match readExpr? ts with
    | some (e, []) => some e
    | _ => none
  | none => none

/-- The text of a readable expression is read as the expression. -/
theorem read?_text (e : Expr) (h : e.isReadable = true) : read? e.text = some e := by
  have htokens : tokens? e.text.toList = some e.tokens := by
    have hcut := cutsInto_text e h [] (by simp [EndsWord])
    simpa [Cuts, tokens?] using hcut
  have hread := (readsBack e h).expr [] (by simp [EndsExpr])
  rw [List.append_nil] at hread
  simp only [read?, htokens, hread]

end Expr

end WideColumn.Script
