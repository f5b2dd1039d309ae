import WideColumn.Conversion
import WideColumn.Proofs.Script.Value

/-!
# What converters do

A converter follows the structure of a value: at the leaves it calls a method, makes a date or makes
an array, and above them it goes through elements, properties and components and leaves everything
in its place. Where a value does not have the structure, the result is not defined.

Main definitions: `Conversion.result?`, `Conversion.resultOrSame?`.
-/

namespace WideColumn.Conversion

open Script

mutual

/-- The value that a converter makes of a value. -/
def result? : Conversion → Value → Option Value
  | toNumber, value => value.method? "toNumber"
  | toString, value => value.method? "toString"
  | toDate, value => value.newDate?
  | tuple components, value =>
    match value.method? "values" with
    | some (.array elements) => (results? components elements).map .array
    | _ => none
  | arrayFrom, value => value.iterated?.map .array
  | each element, value =>
    match value with
    | .array elements => (elements.mapM fun v => element.result? v).map .array
    | _ => none
  | values inner, value =>
    match value with
    | .record properties =>
      if IsOwnOrder (properties.map Prod.fst) then
        (properties.mapM fun p => (inner.result? p.2).map (Prod.mk p.1)).map .record
      else none
    | _ => none

/-- The values that the converters of components make of as many values. A component without a
converter keeps its value. -/
def results? : List (Option Conversion) → List Value → Option (List Value)
  | [], [] => some []
  | none :: components, value :: rest => (results? components rest).map (value :: ·)
  | some c :: components, value :: rest =>
    (c.result? value).bind fun w => (results? components rest).map (w :: ·)
  | _, _ => none

end

/-- The value that a converter makes of a value, which it keeps if there is none. -/
def resultOrSame? : Option Conversion → Value → Option Value
  | none, value => some value
  | some c, value => c.result? value

/-! ## Containers -/

theorem mapM_some {α : Type} (l : List α) : l.mapM some = some l := by
  simpa using List.mapM_pure (m := Option) (l := l) (f := id)

theorem resultOrSame?_none : resultOrSame? none = some := rfl

theorem resultOrSame?_some (c : Conversion) : resultOrSame? (some c) = c.result? := rfl

/-- The converter of a list goes through its elements, and there is none if they have none. -/
theorem resultOrSame?_each (c : Option Conversion) (vs : List Value) :
    resultOrSame? (c.map .each) (.array vs) = (vs.mapM (resultOrSame? c)).map .array := by
  cases c with
  | none =>
    rw [Option.map_none, resultOrSame?_none, mapM_some]
    rfl
  | some c => rw [Option.map_some, resultOrSame?_some, result?, resultOrSame?_some]

/-- The converter of a map goes through its values, and there is none if they have none. -/
theorem resultOrSame?_values (c : Option Conversion) {properties : List (String × Value)}
    (h : IsOwnOrder (properties.map Prod.fst)) :
    resultOrSame? (c.map .values) (.record properties) =
      (properties.mapM fun p => (resultOrSame? c p.2).map (Prod.mk p.1)).map .record := by
  cases c with
  | none =>
    rw [Option.map_none, resultOrSame?_none]
    exact (congrArg (Option.map Value.record) (mapM_some properties)).symm
  | some c => rw [Option.map_some, resultOrSame?_some, result?, if_pos h, resultOrSame?_some]

theorem results?_cons (c : Option Conversion) (cs : List (Option Conversion)) (v : Value)
    (vs : List Value) :
    results? (c :: cs) (v :: vs) =
      (resultOrSame? c v).bind fun w => (results? cs vs).map (w :: ·) := by
  cases c <;> rfl

/-! ## Inversion -/

theorem eq_array_of_each {element : Conversion} {v w : Value}
    (h : (each element).result? v = some w) :
    ∃ vs ws, v = .array vs ∧ vs.mapM element.result? = some ws ∧ w = .array ws := by
  cases v with
  | array vs =>
    rw [result?] at h
    obtain ⟨ws, hws, rfl⟩ := Option.map_eq_some_iff.mp h
    exact ⟨vs, ws, rfl, hws, rfl⟩
  | _ => exact absurd h (by simp [result?])

theorem eq_record_of_values {inner : Conversion} {v w : Value}
    (h : (values inner).result? v = some w) :
    ∃ properties converted, v = .record properties ∧ IsOwnOrder (properties.map Prod.fst) ∧
      properties.mapM (fun p => (inner.result? p.2).map (Prod.mk p.1)) = some converted ∧
      w = .record converted := by
  cases v with
  | record properties =>
    rw [result?] at h
    split at h
    · rename_i horder
      obtain ⟨converted, hconverted, rfl⟩ := Option.map_eq_some_iff.mp h
      exact ⟨properties, converted, rfl, horder, hconverted, rfl⟩
    · contradiction
  | _ => exact absurd h (by simp [result?])

theorem method?_of_tuple {components : List (Option Conversion)} {v w : Value}
    (h : (tuple components).result? v = some w) :
    ∃ vs ws, v.method? "values" = some (.array vs) ∧ results? components vs = some ws ∧
      w = .array ws := by
  rw [result?] at h
  split at h
  · rename_i vs hvs
    obtain ⟨ws, hws, rfl⟩ := Option.map_eq_some_iff.mp h
    exact ⟨vs, ws, hvs, hws, rfl⟩
  · contradiction

theorem eq_nil_of_results?_nil {vs ws : List Value} (h : results? [] vs = some ws) :
    vs = [] ∧ ws = [] := by
  cases vs with
  | nil => exact ⟨rfl, (Option.some.inj h).symm⟩
  | cons v rest => exact absurd h (by simp [results?])

theorem eq_cons_of_results?_cons {c : Option Conversion} {cs : List (Option Conversion)}
    {vs ws : List Value} (h : results? (c :: cs) vs = some ws) :
    ∃ v rest w us, vs = v :: rest ∧ ws = w :: us ∧ resultOrSame? c v = some w ∧
      results? cs rest = some us := by
  cases vs with
  | nil => cases c <;> exact absurd h (by simp [results?])
  | cons v rest =>
    rw [results?_cons, Option.bind_eq_some_iff] at h
    obtain ⟨w, hw, h⟩ := h
    obtain ⟨us, hus, rfl⟩ := Option.map_eq_some_iff.mp h
    exact ⟨v, rest, w, us, rfl, rfl, hw, hus⟩

end WideColumn.Conversion
