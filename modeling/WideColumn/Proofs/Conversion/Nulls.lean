import Mathlib
import WideColumn.ColumnType.Spelling
import WideColumn.Proofs.Conversion.Intent
import WideColumn.Proofs.Conversion.Meaning
import WideColumn.Proofs.Script.Faults

/-!
# Where converters keep nulls

A converter asks only once, of the whole value, whether this is `null`; the components of a tuple it
converts without asking. So a null stays where its component has no converter. Where it has one, a
date is made of it, which is the epoch, and any other converter faults.

The expression has the value of `Conversion.result?` also where that is not what is meant. So it is
enough to compare the two, and to find the faults where there is no result.

Main definition: `Conversion.NullAt`.
Main result: `ColumnType.keeps_nulls_iff`.
-/

namespace WideColumn

open Script

namespace Conversion

/-! ## Where nulls are converted -/

mutual

/-- Somewhere in the value, `null` is a component whose converter is one of the given. -/
def NullAt (p : Conversion → Bool) : Conversion → Value → Prop
  | tuple components, v =>
    ∃ vs, v.method? "values" = some (.array vs) ∧ AnyNullAt p components vs
  | each element, v => ∃ vs, v = .array vs ∧ ∃ w ∈ vs, element.NullAt p w
  | values inner, v => ∃ properties, v = .record properties ∧ ∃ q ∈ properties, inner.NullAt p q.2
  | _, _ => False

/-- In one of the components, or as one of them, `null` is a component whose converter is one of the
given. -/
def AnyNullAt (p : Conversion → Bool) : List (Option Conversion) → List Value → Prop
  | none :: components, _ :: vs => AnyNullAt p components vs
  | some c :: components, v :: vs =>
    v.isNullish = true ∧ p c = true ∨ c.NullAt p v ∨ AnyNullAt p components vs
  | _, _ => False

end

/-- The converter makes dates. -/
def isDate : Conversion → Bool
  | toDate => true
  | _ => false

variable {p : Conversion → Bool}

theorem nullAt_tuple {components : List (Option Conversion)} {v : Value} {vs : List Value}
    (h : v.method? "values" = some (.array vs)) :
    (tuple components).NullAt p v ↔ AnyNullAt p components vs := by
  constructor
  · rintro ⟨us, hus, hany⟩
    obtain rfl : us = vs := Value.array.inj (Option.some.inj (hus.symm.trans h))
    exact hany
  · exact fun hany => ⟨vs, h, hany⟩

theorem not_nullAt_each {element : Conversion} {vs : List Value} :
    ¬ (each element).NullAt p (.array vs) ↔ ∀ v ∈ vs, ¬ element.NullAt p v := by
  simp [NullAt]

theorem not_nullAt_values {inner : Conversion} {properties : List (String × Value)} :
    ¬ (values inner).NullAt p (.record properties) ↔ ∀ q ∈ properties, ¬ inner.NullAt p q.2 := by
  simp [NullAt]

/-! ## What is made instead -/

theorem eq_nil_of_allIntend {vs ws : List Value} (h : AllIntend [] vs ws) : vs = [] ∧ ws = [] := by
  cases vs <;> cases ws <;> first | exact ⟨rfl, rfl⟩ | exact h.elim

theorem exists_cons_of_allIntend {c : Option Conversion} {components : List (Option Conversion)}
    {vs ws : List Value} (h : AllIntend (c :: components) vs ws) :
    ∃ v rest w us, vs = v :: rest ∧ ws = w :: us := by
  cases c <;> cases vs <;> cases ws <;> first | exact h.elim | exact ⟨_, _, _, _, rfl, rfl⟩

/-- What a converter makes of `null` is not `null`. -/
theorem result?_ne_of_isNullish {v : Value} (h : v.isNullish = true) (c : Conversion) :
    c.result? v ≠ some v := by
  cases v with
  | undefined | null => cases c <;> simp [result?, Value.method?, Value.newDate?, Value.iterated?]
  | _ => contradiction

mutual

/-- A converter makes what is meant where it gets to see no null. -/
theorem result?_eq_some_iff (c : Conversion) {v w : Value} (h : c.Intends v w) :
    c.result? v = some w ↔ ¬ c.NullAt (fun _ => true) v := by
  cases c with
  | toNumber | toString | toDate | arrayFrom => exact iff_of_true h.2.2 id
  | tuple components =>
    obtain ⟨vs, ws, hvs, rfl, hall⟩ := h
    rw [nullAt_tuple hvs, ← results?_eq_some_iff components hall, result?, hvs]
    simp
  | each element =>
    obtain ⟨vs, ws, rfl, rfl, hall⟩ := h
    rw [not_nullAt_each, ← mapM_eq_some_iff hall fun v w hvw => result?_eq_some_iff element hvw,
      result?]
    simp
  | values inner =>
    obtain ⟨properties, converted, rfl, horder, rfl, hall⟩ := h
    have hstep : ∀ p q : String × Value, p.1 = q.1 ∧ inner.Intends p.2 q.2 →
        ((inner.result? p.2).map (Prod.mk p.1) = some q ↔
          ¬ inner.NullAt (fun _ => true) p.2) := by
      intro p q hpq
      rw [← result?_eq_some_iff inner hpq.2, hpq.1]
      simp [Prod.ext_iff]
    rw [not_nullAt_values, ← mapM_eq_some_iff hall hstep, result?, if_pos horder]
    simp

theorem results?_eq_some_iff (components : List (Option Conversion)) {vs ws : List Value}
    (h : AllIntend components vs ws) :
    results? components vs = some ws ↔ ¬ AnyNullAt (fun _ => true) components vs := by
  cases components with
  | nil =>
    obtain ⟨rfl, rfl⟩ := eq_nil_of_allIntend h
    exact iff_of_true rfl id
  | cons c components =>
    obtain ⟨v, rest, w, us, rfl, rfl⟩ := exists_cons_of_allIntend h
    cases c with
    | none =>
      obtain ⟨rfl, hrest⟩ := h
      rw [results?, AnyNullAt, ← results?_eq_some_iff components hrest]
      simp
    | some c =>
      obtain ⟨hvw, hrest⟩ := h
      have hcons : results? (some c :: components) (v :: rest) = some (w :: us) ↔
          c.result? v = some w ∧ results? components rest = some us := by
        rw [results?]
        simp [Option.bind_eq_some_iff]
      rw [hcons, results?_eq_some_iff components hrest, AnyNullAt, not_or, not_or]
      split at hvw
      · rename_i hnull
        obtain rfl := hvw
        simp [hnull, result?_ne_of_isNullish hnull c]
      · rename_i hnull
        rw [result?_eq_some_iff c hvw]
        simp [hnull]

end

mutual

/-- A converter makes something where only those of dates get to see a null in it. -/
theorem exists_result? (c : Conversion) {v w : Value} (h : c.Intends v w)
    (hnull : ¬ c.NullAt (fun d => !d.isDate) v) : ∃ u, c.result? v = some u := by
  cases c with
  | toNumber | toString | toDate | arrayFrom => exact ⟨w, h.2.2⟩
  | tuple components =>
    obtain ⟨vs, ws, hvs, rfl, hall⟩ := h
    rw [nullAt_tuple hvs] at hnull
    obtain ⟨us, hus⟩ := exists_results? components hall hnull
    exact ⟨.array us, by rw [result?, hvs]; simp [hus]⟩
  | each element =>
    obtain ⟨vs, ws, rfl, rfl, hall⟩ := h
    obtain ⟨us, hus⟩ := exists_mapM_of_forall₂ hall (not_nullAt_each.mp hnull)
      fun v w hvw => exists_result? element hvw
    exact ⟨.array us, by rw [result?, hus]; rfl⟩
  | values inner =>
    obtain ⟨properties, converted, rfl, horder, rfl, hall⟩ := h
    obtain ⟨us, hus⟩ := exists_mapM_of_forall₂
      (f := fun p => (inner.result? p.2).map (Prod.mk p.1)) hall (not_nullAt_values.mp hnull) (by
        intro p q hpq hp
        obtain ⟨u, hu⟩ := exists_result? inner hpq.2 hp
        exact ⟨(p.1, u), by rw [hu]; rfl⟩)
    exact ⟨.record us, by rw [result?, if_pos horder, hus]; rfl⟩

theorem exists_results? (components : List (Option Conversion)) {vs ws : List Value}
    (h : AllIntend components vs ws) (hnull : ¬ AnyNullAt (fun d => !d.isDate) components vs) :
    ∃ us, results? components vs = some us := by
  cases components with
  | nil =>
    obtain ⟨rfl, rfl⟩ := eq_nil_of_allIntend h
    exact ⟨[], rfl⟩
  | cons c components =>
    obtain ⟨v, rest, w, us, rfl, rfl⟩ := exists_cons_of_allIntend h
    cases c with
    | none =>
      obtain ⟨us, hus⟩ := exists_results? components h.2 hnull
      exact ⟨v :: us, by rw [results?, hus]; rfl⟩
    | some c =>
      obtain ⟨hvw, hrest⟩ := h
      rw [AnyNullAt, not_or, not_or] at hnull
      obtain ⟨us, hus⟩ := exists_results? components hrest hnull.2.2
      have hc : ∃ u, c.result? v = some u := by
        split at hvw
        · rename_i hv
          -- The converter is one of dates, and these are made of any null.
          cases c with
          | toDate => cases v <;> first | contradiction | exact ⟨_, rfl⟩
          | _ => exact absurd ⟨hv, rfl⟩ hnull.1
        · exact exists_result? c hvw hnull.2.1
      obtain ⟨u, hu⟩ := hc
      exact ⟨u :: us, by rw [results?, hu, hus]; rfl⟩

end

/-! ## Faults -/

open Script.Expr

/-- Only dates are made of `null`. -/
theorem faults_expr_of_isNullish {c : Conversion} {e : Expr} {scope : Scope} {v : Value}
    (hscope : scope.HidesNoGlobal) (he : e.eval scope = .ok (.value v)) (hv : v.isNullish = true)
    (hdate : c.isDate = false) : Faults ((c.expr e).eval scope) := by
  cases c with
  | toNumber | toString | each element => exact faults_invoke_of_isNullish he hv
  | toDate => contradiction
  | tuple components =>
    have hvalues : Faults ((e.invoke "values" []).eval scope) := faults_invoke_of_isNullish he hv
    rw [expr]
    split
    · exact hvalues
    · exact faults_call_arguments nofun (faults_evalAll_head hvalues)
  | arrayFrom =>
    refine faults_global_method hscope .array he ?_
    cases v <;> first | contradiction | exact ⟨_, rfl⟩
  | values inner =>
    have hentries : Faults (((Expr.ident "Object").invoke "entries" [e]).eval scope) := by
      refine faults_global_method hscope .object he ?_
      cases v <;> first | contradiction | exact ⟨_, rfl⟩
    exact faults_invoke_arguments (faults_evalAll_head (faults_invoke hentries))

theorem not_anyNullAt_of_isNone {components : List (Option Conversion)} {vs : List Value}
    (hnone : components.all Option.isNone = true) : ¬ AnyNullAt p components vs := by
  induction components generalizing vs with
  | nil => exact id
  | cons c components ih =>
    rw [List.all_cons, Bool.and_eq_true, Option.isNone_iff_eq_none] at hnone
    obtain ⟨rfl, hrest⟩ := hnone
    cases vs with
    | nil => exact id
    | cons v rest => exact ih hrest

mutual

/-- A converter faults if any but that of dates gets to see a null in it, wherever this is. -/
theorem faults_expr (c : Conversion) {e : Expr} {scope : Scope} {v : Value}
    (hscope : scope.HidesNoGlobal) (he : e.eval scope = .ok (.value v))
    (h : c.NullAt (fun d => !d.isDate) v) : Faults ((c.expr e).eval scope) := by
  cases c with
  | toNumber | toString | toDate | arrayFrom => exact h.elim
  | tuple components =>
    obtain ⟨vs, hvs, hany⟩ := h
    have hvalues := eval_method he hvs
    rw [expr]
    split
    · rename_i hnone
      exact absurd hany (not_anyNullAt_of_isNone hnone)
    · have hitems : Scope.HidesNoGlobal (("items", .array vs) :: scope) :=
        hscope.cons _ (by decide)
      exact faults_call_arrow hvalues (faults_array
        (faults_componentExprs components hitems (List.lookup_cons_self ..) rfl hany))
  | each element =>
    obtain ⟨vs, rfl, w, hw, hnull⟩ := h
    have hitem : Scope.HidesNoGlobal (("item", w) :: scope) := hscope.cons _ (by decide)
    exact faults_map he hw rfl
      (faults_expr element hitem (eval_ident (List.lookup_cons_self ..)) hnull)
  | values inner =>
    obtain ⟨properties, rfl, q, hq, hnull⟩ := h
    have hentries : ((Expr.ident "Object").invoke "entries" [e]).eval scope =
        .ok (.value (.array (properties.map Value.ofEntry))) :=
      eval_global_method hscope .object he rfl
    have hnames : Scope.HidesNoGlobal (("k", .string q.1) :: ("v", q.2) :: scope) :=
      (hscope.cons q.2 (by decide)).cons (.string q.1) (by decide)
    have hv : (Expr.ident "v").eval (("k", .string q.1) :: ("v", q.2) :: scope) =
        .ok (.value q.2) := eval_ident rfl
    have hinner := faults_expr inner hnames hv hnull
    exact faults_invoke_arguments (faults_evalAll_head
      (faults_map hentries (List.mem_map_of_mem hq) rfl
        (faults_array (faults_evalAll_tail (faults_evalAll_head hinner)))))

theorem faults_componentExprs (components : List (Option Conversion)) {index : Nat} {scope : Scope}
    {elements vs : List Value} (hscope : scope.HidesNoGlobal)
    (hitems : scope.lookup "items" = some (.array elements)) (hvs : elements.drop index = vs)
    (h : AnyNullAt (fun d => !d.isDate) components vs) :
    Faults (evalAll (componentExprs index components) scope) := by
  cases components with
  | nil => exact h.elim
  | cons c components =>
    cases vs with
    | nil => cases c <;> exact h.elim
    | cons v rest =>
      have hrest : elements.drop (index + 1) = rest := by
        rw [← List.tail_drop, hvs, List.tail_cons]
      have hitem := eval_item_of_drop (eval_ident hitems) hvs
      cases c with
      | none => exact faults_evalAll_tail (faults_componentExprs components hscope hitems hrest h)
      | some c =>
        rcases h with ⟨hv, hdate⟩ | hnull | hany
        · exact faults_evalAll_head
            (faults_expr_of_isNullish hscope hitem hv (by simpa using hdate))
        · exact faults_evalAll_head (faults_expr c hscope hitem hnull)
        · exact faults_evalAll_tail (faults_componentExprs components hscope hitems hrest hany)

end

theorem run_faults {c : Conversion} {v : Value} (hv : v.isNullish = false)
    (h : c.NullAt (fun d => !d.isDate) v) : Faults (c.run v) := by
  have hval : (Expr.ident "val").eval [("val", v)] = .ok (.value v) := eval_ident rfl
  have hscope : Scope.HidesNoGlobal [("val", v)] :=
    Scope.HidesNoGlobal.cons v (fun _ => rfl) (by decide)
  rw [run, body, eval_ifNull hval, if_neg (by rw [hv]; exact Bool.false_ne_true)]
  exact (faults_expr c hscope hval h).bind

end Conversion

namespace ColumnType

open Conversion

/-- The function that a converter is written as keeps `null` itself. In a value it keeps all nulls
if and only if no component that is `null` has a converter, and it makes anything of the value if
and only if no such component has another converter than that of dates. -/
theorem keeps_nulls_iff {t : ColumnType} {c : Conversion} (hc : t.conversion = some c) :
    ∃ body run, Expr.read? c.toModel = some (.arrow (.whole "val") body) ∧
      (∀ scope : Scope, scope.HidesNoGlobal →
        (Expr.arrow (.whole "val") body).eval scope = .ok (.function run)) ∧
      (∀ v, v.isNullish = true → run v = .ok v) ∧
      ∀ v, t.HoldsWithNulls v →
        (∃ w, c.Intends v w) ∧
        (∀ w, c.Intends v w → (run v = .ok w ↔ ¬ c.NullAt (fun _ => true) v)) ∧
        ((∃ u, run v = .ok u) ↔ ¬ c.NullAt (fun d => !d.isDate) v) := by
  refine ⟨c.body, c.run, Expr.read?_text c.toModelExpr (isReadable_toModelExpr c),
    fun scope hscope => eval_toModelExpr c hscope, fun v hv => run_of_isNullish c hv, ?_⟩
  intro v hholds
  obtain ⟨w, hw⟩ := exists_intended t hc hholds
  have hv := (isNullish_of_intends hw).1
  have hfaults : ∀ u, c.run v = .ok u → ¬ c.NullAt (fun d => !d.isDate) v :=
    fun u hu hnull => (run_faults hv hnull).ne_ok u hu
  refine ⟨⟨w, hw⟩, ?_, ?_⟩
  · intro w hw
    rw [← result?_eq_some_iff c hw]
    constructor
    · intro hrun
      obtain ⟨u, hu⟩ := exists_result? c hw (hfaults w hrun)
      have hsame : c.run v = .ok u := run_of_result? hv hu
      rw [hu, Except.ok.inj (hsame.symm.trans hrun)]
    · exact run_of_result? hv
  · constructor
    · rintro ⟨u, hu⟩
      exact hfaults u hu
    · intro hnull
      obtain ⟨u, hu⟩ := exists_result? c hw hnull
      exact ⟨u, run_of_result? hv hu⟩

/-- An amount of a currency, in a map. -/
def amounts : ColumnType := map (native .text) (tuple [native .int, native .bigint])

/-- The plain number may be `null`, for it has no converter, and the big one may not. -/
theorem keeps_nulls_amounts :
    ∃ body run,
      Expr.read? ("(val) => (val == null ? val : Object.fromEntries(Object.entries(val).map(" ++
          "([k, v]) => [k, ((items) => [items[0], items[1].toNumber()])(v.values())])))") =
        some (.arrow (.whole "val") body) ∧
      (Expr.arrow (.whole "val") body).eval [] = .ok (.function run) ∧
      run (.record [("eur", .object [("values", .array
          [.null, .object [("toNumber", .number ⟨0⟩)]])])]) =
        .ok (.record [("eur", .array [.null, .number ⟨0⟩])]) ∧
      ¬ ∃ u,
        run (.record [("eur", .object [("values", .array [.number ⟨0⟩, .null])])]) = .ok u := by
  have htext : (Conversion.values (.tuple [none, some .toNumber])).toModel =
      "(val) => (val == null ? val : Object.fromEntries(Object.entries(val).map(" ++
        "([k, v]) => [k, ((items) => [items[0], items[1].toNumber()])(v.values())])))" := by
    decide +kernel
  have hc : amounts.conversion = some (.values (.tuple [none, some .toNumber])) := rfl
  obtain ⟨body, run, hread, heval, -, hrun⟩ := keeps_nulls_iff hc
  rw [htext] at hread
  have hholds : ∀ v w : Value, (v.isNullish = true ∨ (native .int).HoldsWithNulls v) →
      (w.isNullish = true ∨ (native .bigint).HoldsWithNulls w) →
      amounts.HoldsWithNulls (.record [("eur", .object [("values", .array [v, w])])]) := by
    intro v w hv hw
    refine ⟨_, rfl, List.pairwise_singleton _ _, ?_⟩
    intro p hp
    obtain rfl := List.mem_singleton.mp hp
    exact ⟨trivial, _, rfl, hv, hw, trivial⟩
  refine ⟨body, run, hread, heval [] fun _ => rfl, ?_, ?_⟩
  · have hfirst := hrun _ (hholds .null (.object [("toNumber", .number ⟨0⟩)]) (.inl rfl)
      (.inr ⟨_, rfl⟩))
    refine (hfirst.2.1 _ ?_).mpr ?_
    · refine ⟨_, _, rfl, List.pairwise_singleton _ _, rfl, .cons ⟨rfl, ?_⟩ .nil⟩
      exact ⟨_, _, rfl, rfl, rfl, ⟨rfl, rfl, rfl⟩, trivial⟩
    · simp [Conversion.NullAt, Conversion.AnyNullAt, Value.method?, Value.isNullish]
  · have hsecond := hrun _ (hholds (.number ⟨0⟩) .null (.inr ⟨_, rfl⟩) (.inl rfl))
    rw [hsecond.2.2, not_not]
    exact ⟨_, rfl, _, List.mem_singleton_self _, _, rfl, .inl ⟨rfl, rfl⟩⟩

/-- An identifier that is `null` is asked for its text, and a time that is `null` becomes the
epoch. -/
theorem null_components_converted :
    parse "tuple<uuid, timestamp>" = tuple [native .uuid, native .timestamp] ∧
    (tuple [native .uuid, native .timestamp]).HoldsWithNulls
      (.object [("values", .array [.null, .date (some 1)])]) ∧
    (tuple [native .uuid, native .timestamp]).HoldsWithNulls
      (.object [("values", .array [.object [("toString", .string "c0ffee")], .null])]) ∧
    ∃ c body run,
      (tuple [native .uuid, native .timestamp]).conversion = some c ∧
      Expr.read? c.toModel = some (.arrow (.whole "val") body) ∧
      (Expr.arrow (.whole "val") body).eval [] = .ok (.function run) ∧
      run (.object [("values", .array [.null, .date (some 1)])]) = .error .type ∧
      run (.object [("values", .array [.object [("toString", .string "c0ffee")], .null])]) =
        .ok (.array [.string "c0ffee", .date (some 0)]) := by
  have hparse : parse "tuple<uuid, timestamp>" = tuple [native .uuid, native .timestamp] := by cbv
  refine ⟨hparse, ⟨_, rfl, .inl rfl, .inr ⟨_, rfl⟩, trivial⟩,
    ⟨_, rfl, .inr ⟨_, rfl⟩, .inl rfl, trivial⟩, .tuple [some .toString, some .toDate], _, _, rfl,
    Expr.read?_text _ (Conversion.isReadable_toModelExpr _), rfl, rfl, rfl⟩

end ColumnType

end WideColumn
