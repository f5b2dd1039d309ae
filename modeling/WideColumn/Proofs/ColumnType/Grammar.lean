import WideColumn.Proofs.ColumnType.Bracket
import WideColumn.Proofs.Text.Trim

/-!
# The grammar of type spellings

`Spells text t` says that `text` is a way to write the type `t`: names in any case, blanks around
every type and every dimension, and `frozen<…>` around any type. The grammar puts no bound on the
nesting; the bound belongs to the reader. A name that is no native type spells `unknown`, so a type
without `unknown` is spelled by names that this library knows.

* `ColumnType.nesting`: how deep families nest in a type.
* `Spells`, `SpellsAll`: the grammar, for one type and for a list of arguments.
* `Spells.of_asciiLower`: the grammar reads names in any case.
-/

namespace WideColumn

open Text

namespace ColumnType

/-! ## Shapes of types -/

mutual

/-- The greatest number of families around one another. -/
def nesting : ColumnType → Nat
  | native _ | unknown => 0
  | list element | set element | vector element _ => element.nesting + 1
  | map key value => max key.nesting value.nesting + 1
  | tuple components => nestingOfAll components + 1

/-- The greatest nesting among types. -/
def nestingOfAll : List ColumnType → Nat
  | [] => 0
  | t :: r => max t.nesting (nestingOfAll r)

end

mutual

/-- A tuple without components occurs in the type. -/
def hasEmptyTuple : ColumnType → Bool
  | native _ | unknown => false
  | list element | set element | vector element _ => element.hasEmptyTuple
  | map key value => key.hasEmptyTuple || value.hasEmptyTuple
  | tuple components => components.isEmpty || anyHasEmptyTuple components

/-- A tuple without components occurs in some type of the list. -/
def anyHasEmptyTuple : List ColumnType → Bool
  | [] => false
  | t :: r => t.hasEmptyTuple || anyHasEmptyTuple r

end

end ColumnType

namespace TypeTerm

/-! ## The grammar -/

/-- The text `family<argument,…>`. -/
def applied (family : List Char) (arguments : List (List Char)) : List Char :=
  family ++ '<' :: ([','].intercalate arguments ++ ['>'])

/-- The text writes a dimension: decimal digits, perhaps after a plus sign. -/
def IsDimension (text : List Char) (n : UInt32) : Prop :=
  ∃ digits, (text = digits ∨ text = '+' :: digits) ∧ digits ≠ [] ∧
    (∀ c ∈ digits, c.isDigit = true) ∧ decimalValue digits = n.toNat

mutual

/-- The text is a way to write the type. -/
inductive Spells : List Char → ColumnType → Prop
  | native {text : List Char} {t : NativeType} :
      asciiLower text = t.name.toList → Spells text (.native t)
  /-- A name that is not native stands for a type that this library cannot name. -/
  | foreign {text : List Char} :
      (∀ c ∈ text, c ≠ '<' ∧ c ≠ '>' ∧ c ≠ ',') → allBlank text = false →
      NativeType.ofName? (String.ofList (asciiLower (trim text))) = none → Spells text .unknown
  | padded {before text after : List Char} {t : ColumnType} :
      allBlank before = true → allBlank after = true → Spells text t →
      Spells (before ++ text ++ after) t
  | frozen {family text : List Char} {t : ColumnType} :
      asciiLower family = "frozen".toList → Spells text t → Spells (applied family [text]) t
  | list {family text : List Char} {t : ColumnType} :
      asciiLower family = "list".toList → Spells text t → Spells (applied family [text]) (.list t)
  | set {family text : List Char} {t : ColumnType} :
      asciiLower family = "set".toList → Spells text t → Spells (applied family [text]) (.set t)
  | map {family key value : List Char} {k v : ColumnType} :
      asciiLower family = "map".toList → Spells key k → Spells value v →
      Spells (applied family [key, value]) (.map k v)
  | tuple {family : List Char} {parts : List (List Char)} {ts : List ColumnType} :
      asciiLower family = "tuple".toList → parts ≠ [] → SpellsAll parts ts →
      Spells (applied family parts) (.tuple ts)
  | vector {family text before dimension after : List Char} {t : ColumnType} {n : UInt32} :
      asciiLower family = "vector".toList → Spells text t →
      allBlank before = true → allBlank after = true → IsDimension dimension n →
      Spells (applied family [text, before ++ dimension ++ after]) (.vector t n)

/-- The texts are ways to write the types, one for one. -/
inductive SpellsAll : List (List Char) → List ColumnType → Prop
  | nil : SpellsAll [] []
  | cons {text : List Char} {t : ColumnType} {parts : List (List Char)} {ts : List ColumnType} :
      Spells text t → SpellsAll parts ts → SpellsAll (text :: parts) (t :: ts)

end

/-! ## Names in any case -/

theorem asciiLower_intercalate (parts : List (List Char)) :
    asciiLower ([','].intercalate parts) = [','].intercalate (parts.map asciiLower) := by
  induction parts with
  | nil => rfl
  | cons p rest ih =>
    cases rest with
    | nil => simp
    | cons q rest =>
      rw [List.intercalate_cons_cons, asciiLower_append, asciiLower_append, ih, List.map_cons,
        List.map_cons, List.map_cons, List.intercalate_cons_cons]
      rfl

theorem asciiLower_applied (family : List Char) (parts : List (List Char)) :
    asciiLower (applied family parts) = applied (asciiLower family) (parts.map asciiLower) := by
  unfold applied
  rw [asciiLower_append, asciiLower_cons, asciiLower_append, asciiLower_intercalate]
  rfl

/-- A text that folds to parts joined by commas has such parts itself. -/
theorem exists_parts_of_asciiLower {parts : List (List Char)} :
    ∀ {s : List Char}, asciiLower s = [','].intercalate parts →
      ∃ raws, s = [','].intercalate raws ∧ raws.map asciiLower = parts := by
  induction parts with
  | nil =>
    intro s h
    obtain rfl : s = [] := List.map_eq_nil_iff.mp h
    exact ⟨[], rfl, rfl⟩
  | cons p rest ih =>
    intro s h
    cases rest with
    | nil =>
      rw [List.intercalate_singleton] at h
      exact ⟨[s], by simp, by simp [h]⟩
    | cons q rest =>
      rw [List.intercalate_cons_cons, List.append_assoc] at h
      obtain ⟨x, y, rfl, rfl, hy⟩ := asciiLower_eq_append_iff.mp h
      obtain ⟨c, z, rfl, hc, hz⟩ := asciiLower_eq_cons_iff.mp hy
      obtain rfl : c = ',' := (toLower_eq_iff (by decide)).mp hc
      obtain ⟨raws, rfl, hraws⟩ := ih hz
      obtain ⟨r, raws, rfl⟩ : ∃ r rs, raws = r :: rs := by
        cases raws with
        | nil => exact absurd hraws (by simp)
        | cons r rs => exact ⟨r, rs, rfl⟩
      refine ⟨x :: r :: raws, ?_, ?_⟩
      · rw [List.intercalate_cons_cons, List.append_assoc]
        rfl
      · rw [List.map_cons, hraws]

/-- A text that folds to an applied family is one itself. -/
theorem exists_applied_of_asciiLower {family s : List Char} {parts : List (List Char)}
    (h : asciiLower s = applied family parts) :
    ∃ f raws, s = applied f raws ∧ asciiLower f = family ∧ raws.map asciiLower = parts := by
  obtain ⟨f, y, rfl, rfl, hy⟩ := asciiLower_eq_append_iff.mp h
  obtain ⟨c, z, rfl, hc, hz⟩ := asciiLower_eq_cons_iff.mp hy
  obtain rfl : c = '<' := (toLower_eq_iff (by decide)).mp hc
  obtain ⟨inside, e, rfl, hinside, he⟩ := asciiLower_eq_append_iff.mp hz
  obtain ⟨d, w, rfl, hd, hw⟩ := asciiLower_eq_cons_iff.mp he
  obtain rfl : d = '>' := (toLower_eq_iff (by decide)).mp hd
  obtain rfl : w = [] := List.map_eq_nil_iff.mp hw
  obtain ⟨raws, rfl, hraws⟩ := exists_parts_of_asciiLower hinside
  exact ⟨f, raws, rfl, rfl, hraws⟩

theorem exists_applied₁_of_asciiLower {family s p : List Char}
    (h : asciiLower s = applied family [p]) :
    ∃ f x, s = applied f [x] ∧ asciiLower f = family ∧ asciiLower x = p := by
  obtain ⟨f, raws, rfl, hf, hraws⟩ := exists_applied_of_asciiLower h
  obtain ⟨x, xs, rfl, hx, hxs⟩ := List.map_eq_cons_iff.mp hraws
  obtain rfl : xs = [] := List.map_eq_nil_iff.mp hxs
  exact ⟨f, x, rfl, hf, hx⟩

theorem exists_applied₂_of_asciiLower {family s p q : List Char}
    (h : asciiLower s = applied family [p, q]) :
    ∃ f x y, s = applied f [x, y] ∧ asciiLower f = family ∧ asciiLower x = p ∧
      asciiLower y = q := by
  obtain ⟨f, raws, rfl, hf, hraws⟩ := exists_applied_of_asciiLower h
  obtain ⟨x, xs, rfl, hx, hxs⟩ := List.map_eq_cons_iff.mp hraws
  obtain ⟨y, ys, rfl, hy, hys⟩ := List.map_eq_cons_iff.mp hxs
  obtain rfl : ys = [] := List.map_eq_nil_iff.mp hys
  exact ⟨f, x, y, rfl, hf, hx, hy⟩

/-- Digits and the sign come before the letters, so they have no case. -/
theorem IsDimension.toNat_lt {s : List Char} {n : UInt32} (h : IsDimension s n) :
    ∀ c ∈ s, c.toNat < 65 := by
  obtain ⟨digits, hs, -, hdigits, -⟩ := h
  intro c hc
  rcases hs with rfl | rfl
  · exact toNat_lt_of_isDigit (hdigits c hc)
  · rcases List.mem_cons.mp hc with rfl | hc
    · decide
    · exact toNat_lt_of_isDigit (hdigits c hc)

theorem IsDimension.asciiLower_eq {s : List Char} {n : UInt32} (h : IsDimension s n) :
    asciiLower s = s :=
  asciiLower_eq_self h.toNat_lt

theorem IsDimension.of_asciiLower {s raw : List Char} {n : UInt32} (h : IsDimension s n)
    (hraw : asciiLower raw = s) : IsDimension raw n :=
  eq_of_asciiLower_eq h.toNat_lt hraw ▸ h

mutual

/-- Whatever folds to a spelling is a spelling: the grammar does not see the case of letters. -/
theorem Spells.of_asciiLower : ∀ {s : List Char} {t : ColumnType}, Spells s t →
    ∀ {raw : List Char}, asciiLower raw = s → Spells raw t
  | _, _, .native hname, raw, hraw => by
      refine .native ?_
      rw [← hname, ← hraw, asciiLower_asciiLower]
  | _, _, .foreign hplain hblank hname, raw, hraw => by
      refine .foreign ?_ ?_ ?_
      · intro c hc
        have hfold := hplain c.toLower (hraw ▸ List.mem_map_of_mem hc)
        rwa [Ne, Ne, Ne, toLower_eq_iff (by decide), toLower_eq_iff (by decide),
          toLower_eq_iff (by decide)] at hfold
      · rwa [← hraw, allBlank_asciiLower] at hblank
      · rwa [← hraw, trim_asciiLower, asciiLower_asciiLower] at hname
  | _, _, .padded hbefore hafter htext, raw, hraw => by
      obtain ⟨x, a, rfl, hx, ha⟩ := asciiLower_eq_append_iff.mp hraw
      obtain ⟨b, z, rfl, hb, hz⟩ := asciiLower_eq_append_iff.mp hx
      rw [← hb, allBlank_asciiLower] at hbefore
      rw [← ha, allBlank_asciiLower] at hafter
      exact .padded hbefore hafter (htext.of_asciiLower hz)
  | _, _, .frozen hname htext, raw, hraw => by
      obtain ⟨f, x, rfl, hf, hx⟩ := exists_applied₁_of_asciiLower hraw
      exact .frozen (asciiLower_trans hf hname) (htext.of_asciiLower hx)
  | _, _, .list hname htext, raw, hraw => by
      obtain ⟨f, x, rfl, hf, hx⟩ := exists_applied₁_of_asciiLower hraw
      exact .list (asciiLower_trans hf hname) (htext.of_asciiLower hx)
  | _, _, .set hname htext, raw, hraw => by
      obtain ⟨f, x, rfl, hf, hx⟩ := exists_applied₁_of_asciiLower hraw
      exact .set (asciiLower_trans hf hname) (htext.of_asciiLower hx)
  | _, _, .map hname hkey hvalue, raw, hraw => by
      obtain ⟨f, x, y, rfl, hf, hx, hy⟩ := exists_applied₂_of_asciiLower hraw
      exact .map (asciiLower_trans hf hname) (hkey.of_asciiLower hx) (hvalue.of_asciiLower hy)
  | _, _, .tuple hname hne hparts, raw, hraw => by
      obtain ⟨f, raws, rfl, hf, hraws⟩ := exists_applied_of_asciiLower hraw
      refine .tuple (asciiLower_trans hf hname) ?_ (hparts.of_asciiLower hraws)
      rintro rfl
      exact hne hraws.symm
  | _, _, .vector hname htext hbefore hafter hdim, raw, hraw => by
      obtain ⟨f, x, y, rfl, hf, hx, hy⟩ := exists_applied₂_of_asciiLower hraw
      obtain ⟨z, a, rfl, hz, ha⟩ := asciiLower_eq_append_iff.mp hy
      obtain ⟨b, d, rfl, hb, hd⟩ := asciiLower_eq_append_iff.mp hz
      rw [← hb, allBlank_asciiLower] at hbefore
      rw [← ha, allBlank_asciiLower] at hafter
      exact .vector (asciiLower_trans hf hname) (htext.of_asciiLower hx) hbefore hafter
        (hdim.of_asciiLower hd)

theorem SpellsAll.of_asciiLower : ∀ {parts : List (List Char)} {ts : List ColumnType},
    SpellsAll parts ts → ∀ {raws : List (List Char)}, raws.map asciiLower = parts →
      SpellsAll raws ts
  | _, _, .nil, raws, hraws => by
      obtain rfl : raws = [] := List.map_eq_nil_iff.mp hraws
      exact .nil
  | _, _, .cons htext hparts, raws, hraws => by
      obtain ⟨x, xs, rfl, hx, hxs⟩ := List.map_eq_cons_iff.mp hraws
      exact .cons (htext.of_asciiLower hx) (hparts.of_asciiLower hxs)

end

end TypeTerm

end WideColumn
