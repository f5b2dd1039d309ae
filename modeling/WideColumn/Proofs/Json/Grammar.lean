import WideColumn.Json.Value

/-!
# The grammar of JSON

`Spells text v` says that `text` is a way to write the value `v`. What a document leaves free is
free here: space around everything, the digits and the signs of an exponent, and for a character of
a string whether it stands for itself or is spelled by an escape, in either case of the digits and
for characters beyond the first plane by one escape for each half of a surrogate pair.

The grammar is that of the format and knows nothing of the reader. In particular it puts no bound on
how deep values nest, and none on their numbers.

Main definitions: `IsSpacing`, `SpellsText`, `Numeral.Spells`, `Spells`.
-/

namespace WideColumn.Json

/-! ## Space -/

/-- The text is space, or empty. -/
def IsSpacing (s : List Char) : Prop := ∀ c ∈ s, c = ' ' ∨ c = '\t' ∨ c = '\n' ∨ c = '\r'

/-! ## Strings -/

/-- The letters that stand for a character after a backslash. -/
def escapes : List (Char × Char) :=
  [('"', '"'), ('\\', '\\'), ('/', '/'), ('b', '\x08'), ('f', '\x0c'), ('n', '\n'), ('r', '\r'),
    ('t', '\t')]

/-- The character is the hexadecimal digit of a value, as a small letter or as a capital. -/
def IsHexDigit (value : Nat) (c : Char) : Prop :=
  value < 16 ∧ (c = value.digitChar ∨ c = value.digitChar.toUpper)

/-- The text is the escape of a code unit: four hexadecimal digits after `\u`. -/
inductive IsUnit : List Char → Nat → Prop
  | digits {x y z w : Nat} {a b c d : Char} :
      IsHexDigit x a → IsHexDigit y b → IsHexDigit z c → IsHexDigit w d →
      IsUnit ['\\', 'u', a, b, c, d] (((x * 16 + y) * 16 + z) * 16 + w)

/-- The text is a way to write the character in a string. -/
inductive SpellsChar : List Char → Char → Prop
  | plain {c : Char} : 0x20 ≤ c.toNat → c ≠ '"' → c ≠ '\\' → SpellsChar [c] c
  | escape {e c : Char} : (e, c) ∈ escapes → SpellsChar ['\\', e] c
  | unit {s : List Char} {c : Char} : IsUnit s c.toNat → SpellsChar s c
  /-- A character beyond the first plane has two code units. -/
  | pair {s t : List Char} {high low : Nat} {c : Char} :
      IsUnit s high → IsUnit t low → 0xD800 ≤ high → high < 0xDC00 → 0xDC00 ≤ low → low < 0xE000 →
      c.toNat = 0x10000 + (high - 0xD800) * 0x400 + (low - 0xDC00) → SpellsChar (s ++ t) c

/-- What stands between the quotes is a way to write the text. -/
inductive SpellsText : List Char → List Char → Prop
  | nil : SpellsText [] []
  | cons {s rest : List Char} {c : Char} {text : List Char} :
      SpellsChar s c → SpellsText rest text → SpellsText (s ++ rest) (c :: text)

/-- The character may stand for itself: it is no control character, no quote and no backslash. -/
def isVerbatim (c : Char) : Bool := 0x20 ≤ c.toNat && c != '"' && c != '\\'

/-- A text of such characters is a way to write itself. -/
theorem spellsText_self {s : List Char} (h : s.all isVerbatim = true) : SpellsText s s := by
  induction s with
  | nil => exact .nil
  | cons c s ih =>
    rw [List.all_cons, Bool.and_eq_true] at h
    obtain ⟨hc, hs⟩ := h
    obtain ⟨⟨hspace, hquote⟩, hslash⟩ : (0x20 ≤ c.toNat ∧ c ≠ '"') ∧ c ≠ '\\' := by
      simpa [isVerbatim] using hc
    exact .cons (.plain hspace hquote hslash) (ih hs)

/-- Every character can be written: a quote and a backslash by their escapes, a control character by
its code unit, and all others as themselves. -/
theorem exists_spellsChar (c : Char) : ∃ s, SpellsChar s c := by
  by_cases hescape : c = '"' ∨ c = '\\'
  · rcases hescape with rfl | rfl
    · exact ⟨['\\', '"'], .escape (by decide)⟩
    · exact ⟨['\\', '\\'], .escape (by decide)⟩
  · obtain ⟨hquote, hslash⟩ := not_or.mp hescape
    rcases Nat.lt_or_ge c.toNat 0x20 with hcontrol | hplain
    · have hdigit : ∀ value < 16, IsHexDigit value value.digitChar :=
        fun value h => ⟨h, .inl rfl⟩
      have hunit := IsUnit.digits (hdigit 0 (by decide)) (hdigit 0 (by decide))
        (hdigit (c.toNat / 16) (by omega)) (hdigit (c.toNat % 16) (by omega))
      have hcode : ((0 * 16 + 0) * 16 + c.toNat / 16) * 16 + c.toNat % 16 = c.toNat := by omega
      exact ⟨_, .unit (hcode ▸ hunit)⟩
    · exact ⟨_, .plain hplain hquote hslash⟩

/-- Every text can be written. -/
theorem exists_spellsText (text : List Char) : ∃ s, SpellsText s text := by
  induction text with
  | nil => exact ⟨_, .nil⟩
  | cons c text ih =>
    obtain ⟨first, hfirst⟩ := exists_spellsChar c
    obtain ⟨rest, hrest⟩ := ih
    exact ⟨_, .cons hfirst hrest⟩

/-! ## Numbers -/

/-- The text is one digit or more. -/
def IsDigits (s : List Char) : Prop := s ≠ [] ∧ ∀ c ∈ s, c.isDigit = true

namespace Numeral

/-- The parts of the numeral are runs of digits, and the digits before the point begin with a zero
only if that is the only one. -/
structure IsProper (n : Numeral) : Prop where
  whole : IsDigits n.whole
  leading : n.whole = ['0'] ∨ n.whole.head? ≠ some '0'
  fraction : ∀ digits ∈ n.fraction, IsDigits digits
  exponent : ∀ e ∈ n.exponent, IsDigits e.digits

/-- The sign of the numeral, if it has one. -/
def signText (isNegative : Bool) : List Char := if isNegative then ['-'] else []

/-- The point and the digits after it. -/
def fractionText : Option (List Char) → List Char
  | none => []
  | some digits => '.' :: digits

/-- The text is a way to write the exponent, if there is one. -/
inductive SpellsExponent : List Char → Option Exponent → Prop
  | none : SpellsExponent [] none
  | unsigned {e : Char} {digits : List Char} : e = 'e' ∨ e = 'E' →
      SpellsExponent (e :: digits) (some ⟨false, digits⟩)
  | positive {e : Char} {digits : List Char} : e = 'e' ∨ e = 'E' →
      SpellsExponent (e :: '+' :: digits) (some ⟨false, digits⟩)
  | negative {e : Char} {digits : List Char} : e = 'e' ∨ e = 'E' →
      SpellsExponent (e :: '-' :: digits) (some ⟨true, digits⟩)

/-- The text is a way to write the numeral. -/
inductive Spells : List Char → Numeral → Prop
  | numeral {n : Numeral} {exponent : List Char} :
      n.IsProper → SpellsExponent exponent n.exponent →
      Spells (signText n.isNegative ++ (n.whole ++ (fractionText n.fraction ++ exponent))) n

end Numeral

/-! ## Values -/

/-- The text of a list, with commas between its items. -/
def commaSeparated (parts : List (List Char)) : List Char := [','].intercalate parts

mutual

/-- The text is a way to write the value. -/
inductive Spells : List Char → Value → Prop
  | null : Spells "null".toList .null
  | true : Spells "true".toList (.bool true)
  | false : Spells "false".toList (.bool false)
  | number {s : List Char} {n : Numeral} : Numeral.Spells s n → Spells s (.number n)
  | string {s : List Char} {text : String} : SpellsText s text.toList →
      Spells ('"' :: (s ++ ['"'])) (.string (some text))
  | emptyArray {between : List Char} : IsSpacing between →
      Spells ('[' :: (between ++ [']'])) (.array [])
  | array {parts : List (List Char)} {elements : List Value} : SpellsAll parts elements →
      Spells ('[' :: (commaSeparated parts ++ [']'])) (.array elements)
  | emptyObject {between : List Char} : IsSpacing between →
      Spells ('{' :: (between ++ ['}'])) (.object [])
  | object {parts : List (List Char)} {members : List (Option String × Value)} :
      SpellsMembers parts members →
      Spells ('{' :: (commaSeparated parts ++ ['}'])) (.object members)
  | spaced {before s after : List Char} {v : Value} : IsSpacing before → IsSpacing after →
      Spells s v → Spells (before ++ (s ++ after)) v

/-- The texts are ways to write the values, one for one. -/
inductive SpellsAll : List (List Char) → List Value → Prop
  | nil : SpellsAll [] []
  | cons {s : List Char} {v : Value} {parts : List (List Char)} {elements : List Value} :
      Spells s v → SpellsAll parts elements → SpellsAll (s :: parts) (v :: elements)

/-- The texts are ways to write the members of an object, one for one: a key, which is a string with
space around it, a colon and a value. -/
inductive SpellsMembers : List (List Char) → List (Option String × Value) → Prop
  | nil : SpellsMembers [] []
  | cons {before key after s : List Char} {text : String} {v : Value} {parts : List (List Char)}
      {members : List (Option String × Value)} :
      IsSpacing before → SpellsText key text.toList → IsSpacing after → Spells s v →
      SpellsMembers parts members →
      SpellsMembers ((before ++ '"' :: (key ++ '"' :: (after ++ ':' :: s))) :: parts)
        ((some text, v) :: members)

end

theorem isSpacing_nil : IsSpacing [] := fun _ hc => absurd hc List.not_mem_nil

/-- A string that needs no escapes. -/
theorem spells_self (text : String) (h : text.toList.all isVerbatim = true) :
    Spells ('"' :: (text.toList ++ ['"'])) (.string (some text)) :=
  .string (spellsText_self h)

/-- A member without space in it, the key of which needs no escapes. -/
theorem SpellsMembers.plain {s : List Char} {v : Value} {parts : List (List Char)}
    {members : List (Option String × Value)} (key : String)
    (hkey : key.toList.all isVerbatim = true) (hs : Spells s v)
    (hrest : SpellsMembers parts members) :
    SpellsMembers (('"' :: (key.toList ++ '"' :: ':' :: s)) :: parts) ((some key, v) :: members) :=
  .cons isSpacing_nil (spellsText_self hkey) isSpacing_nil hs hrest

end WideColumn.Json
