import WideColumn.Proofs.Script.Token

/-!
# Cutting the text of an expression

The printer writes an expression token by token. Which tokens these are follows from the structure
of the expression, and the text is cut into just these if the names in it are words.

The text of an expression may end with a word, which the text after it must not go on. `CutsInto`
carries that condition, and `CutsInto.followed` discharges it where two texts meet.

Main definitions: `Expr.tokens`, `Expr.isReadable`, `Cuts`, `CutsInto`.
Main result: `Expr.cutsInto_text`.
-/

namespace WideColumn.Script

open Text

/-! ## Expressions -/

/-- A word ends where this text begins. -/
def EndsWord (rest : List Char) : Prop := ∀ c ∈ rest.head?, isWordPart c = false

theorem endsWord_cons {c : Char} (h : isWordPart c = false) (rest : List Char) :
    EndsWord (c :: rest) := by
  intro d hd
  obtain rfl := Option.some.inj hd
  exact h

theorem endsWord_mark (m : Mark) (s : List Char) : EndsWord (m.text ++ s) := by
  cases m <;> exact endsWord_cons (by decide) _

theorem endsWord_space (s : List Char) : EndsWord (' ' :: s) := endsWord_cons (by decide) s

/-- The tokens in parentheses if they are needed. -/
def grouped (needed : Bool) (ts : List Token) : List Token :=
  if needed then .mark .openRound :: (ts ++ [.mark .closeRound]) else ts

/-- The tokens of a parameter list. -/
def Binding.tokens : Binding → List Token
  | whole name => [.mark .openRound, .word name, .mark .closeRound]
  | pair first second =>
    [.mark .openRound, .mark .openSquare, .word first, .mark .comma, .word second,
      .mark .closeSquare, .mark .closeRound]

/-- The parameter binds names, and no name twice. -/
def Binding.isReadable : Binding → Bool
  | whole name => isName name
  | pair first second => isName first && isName second && first != second

namespace Expr

mutual

/-- The tokens of an expression. -/
def tokens : Expr → List Token
  | ident name => [.word name]
  | member object property =>
    grouped (!object.isClosed) object.tokens ++ [.mark .point, .word property]
  | item object index =>
    grouped (!object.isClosed) object.tokens ++
      [.mark .openSquare, .number index, .mark .closeSquare]
  | call callee arguments =>
    grouped (!callee.isClosed) callee.tokens ++
      .mark .openRound :: (separated arguments ++ [.mark .closeRound])
  | create className arguments =>
    .word "new" :: .word className ::
      .mark .openRound :: (separated arguments ++ [.mark .closeRound])
  | array elements => .mark .openSquare :: (separated elements ++ [.mark .closeSquare])
  | arrow parameter body =>
    parameter.tokens ++ .mark .arrow :: grouped body.isCondition body.tokens
  | ifNull subject whenNull otherwise =>
    subject.tokens ++ .mark .equals :: .word "null" :: .mark .question ::
      (whenNull.tokens ++ .mark .colon :: otherwise.tokens)

/-- The tokens of several expressions, with a comma between neighbours. -/
def separated : List Expr → List Token
  | [] => []
  | [e] => e.tokens
  | e :: f :: r => e.tokens ++ .mark .comma :: separated (f :: r)

end

mutual

/-- The text of the expression is that of no other. The names are names, and what is compared to
`null` is one of them. -/
def isReadable : Expr → Bool
  | ident name => isName name
  | member object property => object.isReadable && isWord property
  | item object _ => object.isReadable
  | call callee arguments => callee.isReadable && allReadable arguments
  | create className arguments => isName className && allReadable arguments
  | array elements => allReadable elements
  | arrow parameter body => parameter.isReadable && body.isReadable
  | ifNull (ident name) whenNull otherwise =>
    isName name && whenNull.isReadable && otherwise.isReadable
  | ifNull _ _ _ => false

/-- The text of each expression is that of no other. -/
def allReadable : List Expr → Bool
  | [] => true
  | e :: r => e.isReadable && allReadable r

end

end Expr

/-! ## Printing and cutting -/

/-- In front of the text `s`, the characters are the tokens. -/
def Cuts (chars : List Char) (ts : List Token) (s : List Char) : Prop :=
  tokens? (chars ++ s) = (tokens? s).map (ts ++ ·)

theorem Cuts.append {a b s : List Char} {ts us : List Token} (ha : Cuts a ts (b ++ s))
    (hb : Cuts b us s) : Cuts (a ++ b) (ts ++ us) s := by
  rw [Cuts] at ha hb ⊢
  rw [List.append_assoc, ha, hb]
  simp [Function.comp_def]

theorem cuts_nil (s : List Char) : Cuts [] [] s := by
  simp [Cuts]

theorem cuts_space (s : List Char) : Cuts [' '] [] s := by
  rw [Cuts, List.singleton_append, tokens?_space]
  simp

theorem cuts_word {name : String} (h : isWord name = true) {s : List Char} (hs : EndsWord s) :
    Cuts name.toList [.word name] s := tokens?_word h hs

theorem cuts_word_space {name : String} (h : isWord name = true) (s : List Char) :
    Cuts (name.toList ++ [' ']) [.word name] s :=
  (cuts_word h (endsWord_space s)).append (cuts_space s)

theorem cuts_mark (m : Mark) {s : List Char} (hs : ∀ c ∈ s.head?, m.isLengthenedBy c = false) :
    Cuts m.text [.mark m] s := tokens?_mark m hs

/-- Nothing makes a bracket longer. -/
theorem cuts_bracket {m : Mark} (h : m ∈ [.openRound, .closeRound, .openSquare, .closeSquare])
    (s : List Char) : Cuts m.text [.mark m] s := by
  refine cuts_mark m fun c _ => ?_
  simp only [List.mem_cons, List.not_mem_nil, or_false] at h
  rcases h with rfl | rfl | rfl | rfl <;> rfl

/-- A mark with a space after it. -/
theorem cuts_mark_space (m : Mark) (s : List Char) : Cuts (m.text ++ [' ']) [.mark m] s := by
  have hspace : ∀ c ∈ ([' '] ++ s).head?, m.isLengthenedBy c = false := by
    intro c hc
    obtain rfl := Option.some.inj hc
    cases m <;> decide
  exact (cuts_mark m hspace).append (cuts_space s)

/-- A mark between spaces. -/
theorem cuts_spaced_mark (m : Mark) (s : List Char) :
    Cuts ([' '] ++ (m.text ++ [' '])) [.mark m] s :=
  (cuts_space _).append (cuts_mark_space m s)

theorem isWord_of_isName {name : String} (h : isName name = true) : isWord name = true := by
  rw [isName, Bool.and_eq_true] at h
  exact h.1

/-- The characters are the tokens in front of every text that does not go on their last word. -/
def CutsInto (chars : List Char) (ts : List Token) : Prop := ∀ s, EndsWord s → Cuts chars ts s

theorem CutsInto.followed {a b s : List Char} {ts us : List Token} (ha : CutsInto a ts)
    (hb : Cuts b us s) (hends : EndsWord (b ++ s)) : Cuts (a ++ b) (ts ++ us) s :=
  (ha _ hends).append hb

theorem CutsInto.inRound {chars : List Char} {ts : List Token} (h : CutsInto chars ts)
    (s : List Char) :
    Cuts ('(' :: (chars ++ [')'])) (.mark .openRound :: (ts ++ [.mark .closeRound])) s :=
  (cuts_bracket (m := .openRound) (by decide) _).append
    ((h _ (endsWord_mark .closeRound s)).append (cuts_bracket (m := .closeRound) (by decide) s))

theorem CutsInto.inSquare {chars : List Char} {ts : List Token} (h : CutsInto chars ts)
    (s : List Char) :
    Cuts ('[' :: (chars ++ [']'])) (.mark .openSquare :: (ts ++ [.mark .closeSquare])) s :=
  (cuts_bracket (m := .openSquare) (by decide) _).append
    ((h _ (endsWord_mark .closeSquare s)).append (cuts_bracket (m := .closeSquare) (by decide) s))

/-- A property after a point. -/
theorem cuts_property {property : String} (h : isWord property = true) {s : List Char}
    (hs : EndsWord s) :
    Cuts (Mark.point.text ++ property.toList) [.mark .point, .word property] s := by
  refine (cuts_mark .point ?_).append (cuts_word h hs)
  intro c hc
  -- A point and a digit would be a number, and two points another mark.
  have hstart : isWordStart c = true := by
    cases hproperty : property.toList with
    | nil => simp [isWord, hproperty] at h
    | cons d r =>
      rw [hproperty] at hc
      obtain rfl := Option.some.inj hc
      simp only [isWord, hproperty, Bool.and_eq_true] at h
      exact h.1
  have hdigit : c.isDigit = false := by
    rw [← Bool.not_eq_true]
    intro hdigit
    rw [isWordStart_of_isDigit hdigit] at hstart
    contradiction
  have hpoint : c ≠ '.' := by
    rintro rfl
    exact absurd hstart (by decide)
  simp [Mark.isLengthenedBy, hdigit, hpoint]

/-- An index in brackets. -/
theorem cuts_index (n : Nat) (s : List Char) :
    Cuts ('[' :: (ofNat n ++ [']'])) [.mark .openSquare, .number n, .mark .closeSquare] s := by
  have hclose : ∀ c ∈ (Mark.closeSquare.text ++ s).head?, lengthensNumber c = false := by
    intro c hc
    obtain rfl := Option.some.inj hc
    decide
  have hnumber : Cuts (ofNat n) [.number n] (Mark.closeSquare.text ++ s) := tokens?_number n hclose
  exact (cuts_bracket (m := .openSquare) (by decide) _).append
    (hnumber.append (cuts_bracket (m := .closeSquare) (by decide) s))

theorem cutsInto_name {name : String} (h : isName name = true) :
    CutsInto name.toList [.word name] :=
  fun _ hs => cuts_word (isWord_of_isName h) hs

theorem CutsInto.parenthesized {text : String} {ts : List Token} (needed : Bool)
    (h : CutsInto text.toList ts) :
    CutsInto (Expr.parenthesized needed text).toList (grouped needed ts) := by
  cases needed with
  | false => exact h
  | true =>
    have hchars : (Expr.parenthesized true text).toList = '(' :: (text.toList ++ [')']) := by
      simp [Expr.parenthesized]
    rw [hchars]
    exact fun s _ => h.inRound s

theorem cuts_binding {parameter : Binding} (h : parameter.isReadable = true) (s : List Char) :
    Cuts parameter.text.toList parameter.tokens s := by
  cases parameter with
  | whole name =>
    have hchars : (Binding.whole name).text.toList = '(' :: (name.toList ++ [')']) := by
      simp [Binding.text]
    rw [hchars]
    exact (cutsInto_name h).inRound s
  | pair first second =>
    simp only [Binding.isReadable, Bool.and_eq_true] at h
    have hpair : CutsInto (first.toList ++ ((Mark.comma.text ++ [' ']) ++ second.toList))
        ([.word first] ++ ([.mark .comma] ++ [.word second])) := by
      intro u hu
      have hsecond := (cuts_mark_space .comma _).append (cutsInto_name h.1.2 u hu)
      exact (cutsInto_name h.1.1).followed hsecond (endsWord_mark .comma _)
    have hchars : (Binding.pair first second).text.toList =
        '(' :: ('[' :: (first.toList ++ ((Mark.comma.text ++ [' ']) ++ second.toList) ++ [']']) ++
          [')']) := by
      simp [Binding.text, Mark.text]
    rw [hchars]
    exact CutsInto.inRound (fun u _ => hpair.inSquare u) s

namespace Expr

mutual

/-- The text of an expression is cut into its tokens, by the structure of the expression. -/
theorem cutsInto_text (e : Expr) (h : e.isReadable = true) : CutsInto e.text.toList e.tokens := by
  cases e with
  | ident name => exact cutsInto_name h
  | member object property =>
    rw [isReadable, Bool.and_eq_true] at h
    have hchars : (member object property).text.toList =
        (parenthesized (!object.isClosed) object.text).toList ++
          (Mark.point.text ++ property.toList) := by
      simp [text, Mark.text]
    rw [hchars]
    intro s hs
    exact ((cutsInto_text object h.1).parenthesized _).followed (cuts_property h.2 hs)
      (endsWord_mark .point _)
  | item object index =>
    rw [isReadable] at h
    have hchars : (item object index).text.toList =
        (parenthesized (!object.isClosed) object.text).toList ++
          '[' :: (ofNat index ++ [']']) := by
      simp [text]
    rw [hchars]
    intro s _
    have hindex := cuts_index index s
    exact ((cutsInto_text object h).parenthesized _).followed hindex (endsWord_mark .openSquare _)
  | call callee arguments =>
    rw [isReadable, Bool.and_eq_true] at h
    have hchars : (call callee arguments).text.toList =
        (parenthesized (!callee.isClosed) callee.text).toList ++
          '(' :: ((commaSeparated arguments).toList ++ [')']) := by
      simp [text]
    rw [hchars]
    intro s _
    have harguments := (cutsInto_commaSeparated arguments h.2).inRound s
    exact ((cutsInto_text callee h.1).parenthesized _).followed harguments
      (endsWord_mark .openRound _)
  | create className arguments =>
    rw [isReadable, Bool.and_eq_true] at h
    have hchars : (create className arguments).text.toList =
        ("new".toList ++ [' ']) ++
          (className.toList ++ '(' :: ((commaSeparated arguments).toList ++ [')'])) := by
      simp [text]
    rw [hchars]
    intro s _
    have harguments := (cutsInto_commaSeparated arguments h.2).inRound s
    have hclass := (cutsInto_name h.1).followed harguments (endsWord_mark .openRound _)
    exact (cuts_word_space (by decide) _).append hclass
  | array elements =>
    have hchars : (array elements).text.toList =
        '[' :: ((commaSeparated elements).toList ++ [']']) := by
      simp [text]
    rw [hchars]
    intro s _
    exact (cutsInto_commaSeparated elements h).inSquare s
  | arrow parameter body =>
    rw [isReadable, Bool.and_eq_true] at h
    have hchars : (arrow parameter body).text.toList =
        parameter.text.toList ++ (([' '] ++ (Mark.arrow.text ++ [' '])) ++
          (parenthesized body.isCondition body.text).toList) := by
      simp [text, Mark.text]
    rw [hchars]
    intro s hs
    have hbody := (cutsInto_text body h.2).parenthesized body.isCondition s hs
    exact (cuts_binding h.1 _).append ((cuts_spaced_mark .arrow _).append hbody)
  | ifNull subject whenNull otherwise =>
    cases subject with
    | ident name =>
      simp only [isReadable, Bool.and_eq_true] at h
      have hchars : (ifNull (ident name) whenNull otherwise).text.toList =
          name.toList ++ (([' '] ++ (Mark.equals.text ++ [' '])) ++ (("null".toList ++ [' ']) ++
            ((Mark.question.text ++ [' ']) ++ (whenNull.text.toList ++
              (([' '] ++ (Mark.colon.text ++ [' '])) ++ otherwise.text.toList))))) := by
        simp [text, Mark.text]
      rw [hchars]
      intro s hs
      -- From the right to the left, since what a token needs to know is what follows it.
      have hotherwise := (cuts_spaced_mark .colon _).append (cutsInto_text otherwise h.2 s hs)
      have hwhenNull := (cuts_mark_space .question _).append
        ((cutsInto_text whenNull h.1.2).followed hotherwise (endsWord_space _))
      have htest := (cuts_spaced_mark .equals _).append
        ((cuts_word_space (by decide : isWord "null" = true) _).append hwhenNull)
      exact (cutsInto_name h.1.1).followed htest (endsWord_space _)
    | _ => exact absurd h (by simp [isReadable])

/-- Several expressions are cut one after the other. -/
theorem cutsInto_commaSeparated (es : List Expr) (h : allReadable es = true) :
    CutsInto (commaSeparated es).toList (separated es) := by
  cases es with
  | nil => exact fun s _ => cuts_nil s
  | cons e r =>
    rw [allReadable, Bool.and_eq_true] at h
    cases r with
    | nil => exact cutsInto_text e h.1
    | cons f r =>
      have hchars : (commaSeparated (e :: f :: r)).toList =
          e.text.toList ++ ((Mark.comma.text ++ [' ']) ++ (commaSeparated (f :: r)).toList) := by
        simp [commaSeparated, Mark.text]
      rw [hchars]
      intro s hs
      have hrest := (cuts_mark_space .comma _).append (cutsInto_commaSeparated (f :: r) h.2 s hs)
      exact (cutsInto_text e h.1).followed hrest (endsWord_mark .comma _)

end

end Expr

end WideColumn.Script
