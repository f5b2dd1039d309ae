import WideColumn.Proofs.Conversion.Typing
import WideColumn.Proofs.Script.Steps

/-!
# What converters are meant to do with nulls

A column without a value is `null`, and so may be each component of a tuple. A converter is meant to
keep these nulls and to convert everything else as it does where there are none. Here `undefined` is
`null` too, as it is for the comparison that scripts make.

Main definitions: `ColumnType.HoldsWithNulls`, `Conversion.Intends`.
Main result: `ColumnType.exists_intended`.
-/

namespace WideColumn

open Script

/-! ## Values with nulls -/

namespace ColumnType

mutual

/-- The driver can hand out the value for a column of the type if components of tuples may be
`null`. -/
def HoldsWithNulls : ColumnType → Value → Prop
  | native type, v => type.Holds v
  | list element, v | set element, v => ∃ vs, v = .array vs ∧ ∀ w ∈ vs, element.HoldsWithNulls w
  | map key value, v =>
    ∃ properties, v = .record properties ∧ IsOwnOrder (properties.map Prod.fst) ∧
      ∀ p ∈ properties, key.NamesKey p.1 ∧ value.HoldsWithNulls p.2
  | tuple components, v =>
    ∃ vs, v.method? "values" = some (.array vs) ∧ AllHoldWithNulls components vs
  | vector element _, v => ∃ vs, v.iterated? = some vs ∧ ∀ w ∈ vs, element.HoldsWithNulls w
  | unknown, _ => True

/-- The driver can hand out the values for the components of a tuple, each of which may be
`null`. -/
def AllHoldWithNulls : List ColumnType → List Value → Prop
  | [], [] => True
  | t :: r, v :: rest => (v.isNullish = true ∨ t.HoldsWithNulls v) ∧ AllHoldWithNulls r rest
  | _, _ => False

end

end ColumnType

namespace Conversion

/-! ## What is meant -/

mutual

/-- The converter is meant to make the second value of the first: components that are `null` stay,
and everything else is converted. -/
def Intends : Conversion → Value → Value → Prop
  | tuple components, v, w =>
    ∃ vs ws, v.method? "values" = some (.array vs) ∧ w = .array ws ∧ AllIntend components vs ws
  | each element, v, w =>
    ∃ vs ws, v = .array vs ∧ w = .array ws ∧ List.Forall₂ (fun a b => element.Intends a b) vs ws
  | values inner, v, w =>
    ∃ properties converted, v = .record properties ∧ IsOwnOrder (properties.map Prod.fst) ∧
      w = .record converted ∧
      List.Forall₂ (fun p q => p.1 = q.1 ∧ inner.Intends p.2 q.2) properties converted
  | c, v, w => v.isNullish = false ∧ w.isNullish = false ∧ c.result? v = some w

/-- The converters of components are meant to make the second values of the first. A component
without a converter keeps its value. -/
def AllIntend : List (Option Conversion) → List Value → List Value → Prop
  | [], [], [] => True
  | none :: components, v :: vs, w :: ws => w = v ∧ AllIntend components vs ws
  | some c :: components, v :: vs, w :: ws =>
    (if v.isNullish then w = v else c.Intends v w) ∧ AllIntend components vs ws
  | _, _, _ => False

end

theorem isNullish_of_intends {c : Conversion} {v w : Value} (h : c.Intends v w) :
    v.isNullish = false ∧ w.isNullish = false := by
  cases c with
  | toNumber | toString | toDate | arrayFrom => exact ⟨h.1, h.2.1⟩
  | tuple components =>
    obtain ⟨vs, ws, hvs, rfl, -⟩ := h
    exact ⟨Expr.isNullish_of_method? hvs, rfl⟩
  | each element =>
    obtain ⟨vs, ws, rfl, rfl, -⟩ := h
    exact ⟨rfl, rfl⟩
  | values inner =>
    obtain ⟨properties, converted, rfl, -, rfl, -⟩ := h
    exact ⟨rfl, rfl⟩

end Conversion

/-! ## The structure of a value is enough -/

theorem isNullish_of_iterated? {v : Value} {vs : List Value} (h : v.iterated? = some vs) :
    v.isNullish = false := by
  cases v with
  | undefined | null => contradiction
  | _ => rfl

open Conversion

theorem NativeType.exists_intended {type : NativeType} {c : Conversion} {v : Value}
    (hc : type.conversion = some c) (h : type.Holds v) : ∃ w, c.Intends v w := by
  cases type with
  | ascii | text | varchar | boolean | blob | int | smallint | tinyint | float | double =>
    contradiction
  | bigint | counter | varint | decimal =>
    obtain ⟨n, hn⟩ := h
    obtain rfl := Option.some.inj hc
    exact ⟨.number n, Expr.isNullish_of_method? hn, rfl, hn⟩
  | uuid | timeuuid | inet | date | time | duration =>
    obtain ⟨s, hs⟩ := h
    obtain rfl := Option.some.inj hc
    exact ⟨.string s, Expr.isNullish_of_method? hs, rfl, hs⟩
  | timestamp =>
    obtain ⟨time, rfl⟩ := h
    obtain rfl := Option.some.inj hc
    exact ⟨.date time, rfl, rfl, rfl⟩

namespace ColumnType

mutual

/-- For every value of the driver there is one that is meant. -/
theorem exists_intended (t : ColumnType) {c : Conversion} {v : Value} (hc : t.conversion = some c)
    (h : t.HoldsWithNulls v) : ∃ w, c.Intends v w := by
  cases t with
  | native type => exact NativeType.exists_intended hc h
  | list element | set element =>
    obtain ⟨vs, rfl, hvs⟩ := h
    rw [conversion] at hc
    obtain ⟨d, hd, rfl⟩ := Option.map_eq_some_iff.mp hc
    obtain ⟨ws, hws⟩ := exists_forall₂ fun w hw => exists_intended element hd (hvs w hw)
    exact ⟨.array ws, vs, ws, rfl, rfl, hws⟩
  | map key value =>
    obtain ⟨properties, rfl, horder, hproperties⟩ := h
    rw [conversion] at hc
    obtain ⟨d, hd, rfl⟩ := Option.map_eq_some_iff.mp hc
    have hstep : ∀ p ∈ properties, ∃ q : String × Value, p.1 = q.1 ∧ d.Intends p.2 q.2 := by
      intro p hp
      obtain ⟨w, hw⟩ := exists_intended value hd (hproperties p hp).2
      exact ⟨(p.1, w), rfl, hw⟩
    obtain ⟨converted, hconverted⟩ := exists_forall₂ hstep
    exact ⟨.record converted, properties, converted, rfl, horder, rfl, hconverted⟩
  | tuple components =>
    obtain ⟨vs, hvs, hall⟩ := h
    obtain rfl := Option.some.inj hc
    obtain ⟨ws, hws⟩ := exists_allIntended components hall
    exact ⟨.array ws, vs, ws, hvs, rfl, hws⟩
  | vector element dimension =>
    obtain ⟨vs, hvs, -⟩ := h
    obtain rfl := Option.some.inj hc
    refine ⟨.array vs, isNullish_of_iterated? hvs, rfl, ?_⟩
    rw [result?, hvs]
    rfl
  | unknown => contradiction

theorem exists_allIntended (ts : List ColumnType) {vs : List Value} (h : AllHoldWithNulls ts vs) :
    ∃ ws, AllIntend (conversions ts) vs ws := by
  cases ts with
  | nil =>
    cases vs with
    | nil => exact ⟨[], trivial⟩
    | cons v rest => exact h.elim
  | cons t r =>
    cases vs with
    | nil => exact h.elim
    | cons v rest =>
      obtain ⟨hv, hrest⟩ := h
      obtain ⟨ws, hws⟩ := exists_allIntended r hrest
      rw [conversions]
      cases hc : t.conversion with
      | none => exact ⟨v :: ws, rfl, hws⟩
      | some c =>
        rcases hv with hnull | hholds
        · exact ⟨v :: ws, by rw [if_pos hnull], hws⟩
        · obtain ⟨w, hw⟩ := exists_intended t hc hholds
          have hv := (isNullish_of_intends hw).1
          exact ⟨w :: ws, by rwa [if_neg (by rw [hv]; exact Bool.false_ne_true)], hws⟩

end

end ColumnType

end WideColumn
