import WideColumn.Proofs.Conversion.Structure
import WideColumn.Proofs.Script.Reader
import WideColumn.Proofs.Script.Steps

/-!
# What the text of a converter means

A converter is written as an arrow function around nested expressions. All of these bind the same
few names, `item`, `items`, `k` and `v`, so an inner function may hide what an outer one has bound.

* `eval_expr`: the converter's expression has the converted value in every scope in which the
  expression of the value has that value. A name that is hidden further inside is no longer needed
  there, and the induction does not even have to say so.
* `free_expr`: the expression has no free names but those of the value's expression.
* `toModel_means`: the text is read as a function that converts.

Main definitions: `Conversion.body`, `Conversion.run`.
-/

namespace WideColumn

open Script

namespace Conversion

open Script.Expr

/-! ## Steps of converters -/

/-- Components without converters keep their values. -/
theorem results?_of_isNone {components : List (Option Conversion)} {vs ws : List Value}
    (hnone : components.all Option.isNone = true) (h : results? components vs = some ws) :
    ws = vs := by
  induction components generalizing vs ws with
  | nil =>
    obtain ⟨rfl, rfl⟩ := eq_nil_of_results?_nil h
    rfl
  | cons c components ih =>
    rw [List.all_cons, Bool.and_eq_true, Option.isNone_iff_eq_none] at hnone
    obtain ⟨rfl, hrest⟩ := hnone
    obtain ⟨v, rest, w, us, rfl, rfl, hw, hus⟩ := eq_cons_of_results?_cons h
    obtain rfl := Option.some.inj hw
    rw [ih hrest hus]

/-- The entries of a plain object, converted one by one, are the entries of the converted object. -/
theorem fromEntries_entries {properties : List (String × Value)}
    (h : IsOwnOrder (properties.map Prod.fst)) :
    Global.callMethod .object "fromEntries" [.value (.array (properties.map Value.ofEntry))] =
      .ok (.record properties) := by
  have hentries : (properties.map Value.ofEntry).mapM Value.entry? = some properties := by
    have hentry : Value.entry? ∘ Value.ofEntry = some := rfl
    rw [List.mapM_map, hentry, mapM_some]
  simp only [Global.callMethod, hentries, ofEntries_of_isOwnOrder h]

/-- An arrow function that is given the names and values of a plain object one by one, and leaves
the names. -/
theorem eval_entryMap {e body : Expr} {scope : Scope} {properties converted : List (String × Value)}
    (hscope : scope.HidesNoGlobal) (he : e.eval scope = .ok (.value (.record properties)))
    (horder : IsOwnOrder (properties.map Prod.fst))
    (h : List.Forall₂ (fun p q => p.1 = q.1 ∧
      body.eval (("k", .string p.1) :: ("v", p.2) :: scope) = .ok (.value q.2))
      properties converted) :
    ((Expr.ident "Object").invoke "fromEntries"
      [((Expr.ident "Object").invoke "entries" [e]).invoke "map"
        [.arrow (.pair "k" "v") (.array [.ident "k", body])]]).eval scope =
      .ok (.value (.record converted)) := by
  have hentries : ((Expr.ident "Object").invoke "entries" [e]).eval scope =
      .ok (.value (.array (properties.map Value.ofEntry))) :=
    eval_global_method hscope .object he rfl
  have hmap : (((Expr.ident "Object").invoke "entries" [e]).invoke "map"
      [.arrow (.pair "k" "v") (.array [.ident "k", body])]).eval scope =
      .ok (.value (.array (converted.map Value.ofEntry))) := by
    refine eval_map hentries ?_
    rw [List.forall₂_map_left_iff, List.forall₂_map_right_iff]
    refine h.imp fun p q hpq => ?_
    obtain ⟨hname, hbody⟩ := hpq
    refine ⟨[("k", .string p.1), ("v", p.2)], rfl, ?_⟩
    have hk : (Expr.ident "k").eval (("k", .string p.1) :: ("v", p.2) :: scope) =
        .ok (.value (.string q.1)) := by
      rw [← hname]
      exact eval_ident rfl
    have hall : evalAll [.ident "k", body] (("k", .string p.1) :: ("v", p.2) :: scope) =
        .ok ([.string q.1, q.2].map .value) := by
      simp [evalAll, hk, hbody]
    exact eval_array hall
  have hnames : properties.map Prod.fst = converted.map Prod.fst := by
    rw [← List.forall₂_eq_eq_eq, List.forall₂_map_left_iff, List.forall₂_map_right_iff]
    exact h.imp fun _ _ hpq => hpq.1
  exact eval_global_method hscope .object hmap (fromEntries_entries (hnames ▸ horder))

mutual

/-- In every scope in which the expression of a value has that value, the converter's expression has
the converted value. So it does not matter which names the scope gives values, nor which of them the
expression of the value uses. -/
theorem eval_expr (c : Conversion) {e : Expr} {scope : Scope} {v w : Value}
    (hscope : scope.HidesNoGlobal) (he : e.eval scope = .ok (.value v))
    (hw : c.result? v = some w) : (c.expr e).eval scope = .ok (.value w) := by
  cases c with
  | toNumber => exact eval_method he hw
  | toString => exact eval_method he hw
  | toDate => exact eval_date hscope he hw
  | tuple components =>
    obtain ⟨vs, ws, hvs, hws, rfl⟩ := method?_of_tuple hw
    have hvalues := eval_method he hvs
    rw [expr]
    split
    · rename_i hnone
      rw [results?_of_isNone hnone hws]
      exact hvalues
    · -- The tuple itself stands outside of the function, where `items` may mean an outer tuple.
      refine eval_call_arrow hvalues (eval_array ?_)
      have hitems : Scope.HidesNoGlobal (("items", .array vs) :: scope) := hscope.cons _ (by decide)
      exact evalAll_componentExprs components hitems (List.lookup_cons_self ..) rfl hws
  | arrayFrom =>
    obtain ⟨vs, hvs, rfl⟩ := Option.map_eq_some_iff.mp hw
    refine eval_global_method hscope .array he ?_
    simp only [Global.callMethod, hvs]
  | each element =>
    obtain ⟨vs, ws, rfl, hws, rfl⟩ := eq_array_of_each hw
    -- Inside the function `item` is the element, whatever it means outside.
    refine eval_map he ((mapM_eq_some_forall₂ hws).imp fun v w hvw => ?_)
    have hitem : Scope.HidesNoGlobal (("item", v) :: scope) := hscope.cons _ (by decide)
    exact ⟨_, rfl, eval_expr element hitem (eval_ident (List.lookup_cons_self ..)) hvw⟩
  | values inner =>
    obtain ⟨properties, converted, rfl, horder, hconverted, rfl⟩ := eq_record_of_values hw
    have hsteps := mapM_eq_some_forall₂ hconverted
    refine eval_entryMap hscope he horder (hsteps.imp fun p q hpq => ?_)
    obtain ⟨u, hu, rfl⟩ := Option.map_eq_some_iff.mp hpq
    have hnames : Scope.HidesNoGlobal (("k", .string p.1) :: ("v", p.2) :: scope) :=
      (hscope.cons p.2 (by decide)).cons (.string p.1) (by decide)
    have hv : (Expr.ident "v").eval (("k", .string p.1) :: ("v", p.2) :: scope) =
        .ok (.value p.2) := eval_ident rfl
    exact ⟨rfl, eval_expr inner hnames hv hu⟩

/-- The components are taken from `items`, from the given index on. A converter inside may bind
`items` again, in a scope of its own. -/
theorem evalAll_componentExprs (components : List (Option Conversion)) {index : Nat} {scope : Scope}
    {elements vs ws : List Value} (hscope : scope.HidesNoGlobal)
    (hitems : scope.lookup "items" = some (.array elements)) (hvs : elements.drop index = vs)
    (hws : results? components vs = some ws) :
    evalAll (componentExprs index components) scope = .ok (ws.map .value) := by
  cases components with
  | nil =>
    obtain ⟨rfl, rfl⟩ := eq_nil_of_results?_nil hws
    rfl
  | cons c components =>
    obtain ⟨v, rest, w, us, rfl, rfl, hw, hus⟩ := eq_cons_of_results?_cons hws
    have hrest : elements.drop (index + 1) = rest := by
      rw [← List.tail_drop, hvs, List.tail_cons]
    have hitem : (Expr.item (.ident "items") index).eval scope = .ok (.value v) :=
      eval_item_of_drop (eval_ident hitems) hvs
    have hcomponents := evalAll_componentExprs components hscope hitems hrest hus
    cases c with
    | none =>
      obtain rfl := Option.some.inj hw
      simp [componentExprs, evalAll, hitem, hcomponents]
    | some c =>
      have hc := eval_expr c hscope hitem hw
      simp [componentExprs, evalAll, hc, hcomponents]

end

/-! ## Names -/

/-- The names of the global objects. -/
def globalNames : List String := ["Object", "Array", "Date"]

mutual

/-- A converter has no free names but those of the value's expression and of global objects: the
names of its parameters are all bound. -/
theorem free_expr (c : Conversion) (e : Expr) : (c.expr e).free ⊆ e.free ++ globalNames := by
  cases c with
  | toNumber | toString => simp [expr, invoke, free, freeAll]
  | toDate => simp [expr, free, freeAll, globalNames]
  | tuple components =>
    rw [expr]
    split
    · simp [invoke, free, freeAll]
    · have hcomponents : (Expr.arrow (.whole "items")
          (.array (componentExprs 0 components))).free ⊆ globalNames :=
        free_arrow (free_componentExprs components 0)
      rw [free, freeAll_singleton, free_invoke, freeAll, List.append_nil]
      exact List.append_subset.mpr
        ⟨List.subset_append_of_subset_right e.free hcomponents, List.subset_append_left ..⟩
  | arrayFrom => simp [expr, invoke, free, freeAll, globalNames]
  | each element =>
    have helement : (Expr.arrow (.whole "item") (element.expr (.ident "item"))).free ⊆
        globalNames := free_arrow (free_expr element (.ident "item"))
    rw [expr, free_invoke, freeAll_singleton]
    exact List.append_subset.mpr
      ⟨List.subset_append_left .., List.subset_append_of_subset_right e.free helement⟩
  | values inner =>
    have hinner := free_expr inner (.ident "v")
    have hentry : (Expr.arrow (.pair "k" "v")
        (.array [.ident "k", inner.expr (.ident "v")])).free ⊆ globalNames := by
      refine free_arrow ?_
      rw [free, freeAll, freeAll, freeAll, List.append_nil]
      exact List.cons_subset_cons "k" hinner
    have hobject : ["Object"] ⊆ e.free ++ globalNames :=
      List.subset_append_of_subset_right e.free (by decide)
    rw [expr, free_invoke, freeAll_singleton, free_invoke, freeAll_singleton, free_invoke,
      freeAll_singleton, free_ident]
    refine List.append_subset.mpr ⟨hobject, List.append_subset.mpr ⟨?_, ?_⟩⟩
    · exact List.append_subset.mpr ⟨hobject, List.subset_append_left ..⟩
    · exact List.subset_append_of_subset_right e.free hentry

theorem free_componentExprs (components : List (Option Conversion)) (index : Nat) :
    freeAll (componentExprs index components) ⊆ ["items"] ++ globalNames := by
  cases components with
  | nil => simp [componentExprs, freeAll]
  | cons c components =>
    have hrest := free_componentExprs components (index + 1)
    cases c with
    | none => simpa [componentExprs, freeAll, free] using hrest
    | some c =>
      have hc := free_expr c (.item (.ident "items") index)
      rw [componentExprs, freeAll]
      exact List.append_subset.mpr ⟨hc, hrest⟩

end

mutual

/-- The script of a converter can be read back wherever the value's expression can. -/
theorem isReadable_expr (c : Conversion) {e : Expr} (h : e.isReadable = true) :
    (c.expr e).isReadable = true := by
  cases c with
  | toNumber | toString =>
    rw [expr, invoke, isReadable, isReadable, h]
    decide
  | toDate =>
    rw [expr, isReadable, allReadable, allReadable, h]
    decide
  | tuple components =>
    have hvalues : (e.invoke "values" []).isReadable = true := by
      rw [invoke, isReadable, isReadable, h]
      decide
    rw [expr]
    split
    · exact hvalues
    · have hcomponents := allReadable_componentExprs components 0
      rw [isReadable, isReadable, isReadable, hcomponents, allReadable, allReadable, hvalues]
      decide
  | arrayFrom =>
    rw [expr, invoke, isReadable, isReadable, isReadable, allReadable, allReadable, h]
    decide
  | each element =>
    have helement : (element.expr (.ident "item")).isReadable = true :=
      isReadable_expr element (by rw [isReadable]; decide)
    rw [expr, invoke, isReadable, isReadable, h, allReadable, allReadable, isReadable, helement]
    decide
  | values inner =>
    have hinner : (inner.expr (.ident "v")).isReadable = true :=
      isReadable_expr inner (by rw [isReadable]; decide)
    simp only [expr, invoke, isReadable, allReadable, h, hinner, Bool.and_true]
    decide

theorem allReadable_componentExprs (components : List (Option Conversion)) (index : Nat) :
    allReadable (componentExprs index components) = true := by
  cases components with
  | nil => rfl
  | cons c components =>
    have hrest := allReadable_componentExprs components (index + 1)
    have hitem : (Expr.item (.ident "items") index).isReadable = true := by
      rw [isReadable, isReadable]
      decide
    cases c with
    | none => rw [componentExprs, allReadable, hitem, hrest, Bool.and_self]
    | some c => rw [componentExprs, allReadable, isReadable_expr c hitem, hrest, Bool.and_self]

end

/-! ## The text of a converter -/

/-- The body of the function that a converter is written as. -/
def body (c : Conversion) : Expr := .ifNull (.ident "val") (.ident "val") (c.expr (.ident "val"))

theorem toModelExpr_eq (c : Conversion) : c.toModelExpr = .arrow (.whole "val") c.body := rfl

theorem free_body (c : Conversion) : c.body.free ⊆ "val" :: globalNames := by
  have hexpr := free_expr c (.ident "val")
  rw [body, free, free_ident]
  exact List.append_subset.mpr ⟨by simp, hexpr⟩

theorem free_toModelExpr (c : Conversion) : c.toModelExpr.free ⊆ globalNames :=
  free_arrow (free_body c)

theorem isReadable_toModelExpr (c : Conversion) : c.toModelExpr.isReadable = true := by
  have hval : (Expr.ident "val").isReadable = true := by
    rw [isReadable]
    decide
  rw [toModelExpr_eq, body, isReadable, isReadable, hval, isReadable_expr c hval]
  decide

/-- In all scopes that leave the global objects alone, the function of a converter is the same. -/
theorem eval_toModelExpr (c : Conversion) {scope : Scope} (hscope : scope.HidesNoGlobal) :
    c.toModelExpr.eval scope = c.toModelExpr.eval [] := by
  refine eval_congr _ fun name hname => ?_
  have hglobal := c.free_toModelExpr hname
  simp only [globalNames, List.mem_cons, List.not_mem_nil, or_false] at hglobal
  rcases hglobal with rfl | rfl | rfl
  · exact hscope .object
  · exact hscope .array
  · exact hscope .date

/-- The function that a converter is written as. -/
def run (c : Conversion) (v : Value) : Except Fault Value := do
  (← c.body.eval [("val", v)]).asValue

theorem run_of_isNullish (c : Conversion) {v : Value} (h : v.isNullish = true) :
    c.run v = .ok v := by
  have hval : (Expr.ident "val").eval [("val", v)] = .ok (.value v) := eval_ident rfl
  rw [run, body, eval_ifNull hval, if_pos h, hval]
  rfl

theorem run_of_result? {c : Conversion} {v w : Value} (h : v.isNullish = false)
    (hw : c.result? v = some w) : c.run v = .ok w := by
  have hval : (Expr.ident "val").eval [("val", v)] = .ok (.value v) := eval_ident rfl
  have hscope : Scope.HidesNoGlobal [("val", v)] :=
    Scope.HidesNoGlobal.cons v (fun _ => rfl) (by decide)
  rw [run, body, eval_ifNull hval, if_neg (by rw [h]; decide), eval_expr c hscope hval hw]
  rfl

/-- The text of a converter is an arrow function that uses no names from outside but those of global
objects. Wherever these are not hidden, the function returns `null` and `undefined` as they are, and
what the converter makes of every other value that it is defined on. -/
theorem toModel_means (c : Conversion) :
    ∃ body, c.toModel = (Expr.arrow (.whole "val") body).text ∧
      Expr.read? c.toModel = some (.arrow (.whole "val") body) ∧
      (∀ name ∈ body.free, name ∈ ["val", "Object", "Array", "Date"]) ∧
      ∃ run, (∀ scope : Scope, scope.HidesNoGlobal →
          (Expr.arrow (.whole "val") body).eval scope = .ok (.function run)) ∧
        run .null = .ok .null ∧ run .undefined = .ok .undefined ∧
        ∀ v w, v.isNullish = false → c.result? v = some w → run v = .ok w := by
  have hread := read?_text c.toModelExpr (isReadable_toModelExpr c)
  refine ⟨c.body, rfl, hread, free_body c, c.run, ?_⟩
  refine ⟨fun scope hscope => ?_, run_of_isNullish c rfl, run_of_isNullish c rfl, ?_⟩
  · exact eval_toModelExpr c hscope
  · exact fun v w hv hw => run_of_result? hv hw

/-- The inner function binds `items` again, and the outer one still has its own. -/
theorem toModel_means_nested :
    ∃ body run,
      Expr.read? ("(val) => (val == null ? val : ((items) => " ++
          "[((items) => [items[0].toNumber()])(items[0].values()), items[1]])(val.values()))") =
        some (.arrow (.whole "val") body) ∧
      (Expr.arrow (.whole "val") body).eval [] = .ok (.function run) ∧
      run (.object [("values", .array [.object [("values", .array
        [.object [("toNumber", .number ⟨0⟩)]])], .string "outer"])]) =
        .ok (.array [.array [.number ⟨0⟩], .string "outer"]) := by
  have htext : (tuple [some (tuple [some toNumber]), none]).toModel =
      "(val) => (val == null ? val : ((items) => " ++
        "[((items) => [items[0].toNumber()])(items[0].values()), items[1]])(val.values()))" := by
    decide +kernel
  obtain ⟨body, -, hread, -, run, heval, -, -, hrun⟩ :=
    toModel_means (tuple [some (tuple [some toNumber]), none])
  rw [htext] at hread
  exact ⟨body, run, hread, heval [] fun _ => rfl, hrun _ _ rfl rfl⟩

end Conversion

end WideColumn
