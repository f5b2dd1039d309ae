import Mathlib.Data.List.Forall2
import WideColumn.Proofs.Script.Evaluation

/-!
# Steps of evaluation

What the expressions evaluate to that converters are built of, from what their parts evaluate to.
Callers need not know how evaluation threads faults.

Main results: `Expr.eval_method`, `Expr.eval_map`, `Expr.eval_call_arrow`,
`Expr.eval_global_method`.
-/

namespace WideColumn.Script

/-! ## Lists of steps -/

theorem mapM_eq_some_forall₂ {α β : Type} {f : α → Option β} {xs : List α} {ys : List β}
    (h : xs.mapM f = some ys) : List.Forall₂ (fun x y => f x = some y) xs ys := by
  induction xs generalizing ys with
  | nil =>
    obtain rfl : [] = ys := by simpa using h
    exact .nil
  | cons x xs ih =>
    rw [List.mapM_cons, Option.bind_eq_bind, Option.bind_eq_some_iff] at h
    obtain ⟨y, hy, h⟩ := h
    rw [Option.bind_eq_bind, Option.bind_eq_some_iff] at h
    obtain ⟨rest, hrest, h⟩ := h
    obtain rfl : y :: rest = ys := Option.some.inj h
    exact .cons hy (ih hrest)

theorem mapM_ok_of_forall₂ {α β ε : Type} {run : α → Except ε β} {xs : List α} {ys : List β}
    (h : List.Forall₂ (fun x y => run x = .ok y) xs ys) : xs.mapM run = .ok ys := by
  induction h with
  | nil => rfl
  | cons hx _ ih =>
    rw [List.mapM_cons, hx, ih]
    rfl

section Lists

variable {α β : Type} {f : α → Option β} {R : α → β → Prop} {P : α → Prop} {xs : List α}
  {ys : List β}

theorem exists_forall₂ (h : ∀ x ∈ xs, ∃ y, R x y) : ∃ ys, List.Forall₂ R xs ys := by
  induction xs with
  | nil => exact ⟨[], .nil⟩
  | cons x xs ih =>
    rw [List.forall_mem_cons] at h
    obtain ⟨y, hy⟩ := h.1
    obtain ⟨ys, hys⟩ := ih h.2
    exact ⟨y :: ys, .cons hy hys⟩

/-- The results that the elements are related to are those of a step if they are so one by one. -/
theorem mapM_eq_some_iff (h : List.Forall₂ R xs ys)
    (hstep : ∀ x y, R x y → (f x = some y ↔ P x)) : xs.mapM f = some ys ↔ ∀ x ∈ xs, P x := by
  induction h with
  | nil => simp
  | cons hxy _ ih =>
    rw [List.mapM_cons, List.forall_mem_cons, ← hstep _ _ hxy, ← ih]
    simp [Option.bind_eq_some_iff]

theorem exists_mapM_of_forall₂ (h : List.Forall₂ R xs ys) (hP : ∀ x ∈ xs, P x)
    (hstep : ∀ x y, R x y → P x → ∃ z, f x = some z) : ∃ zs, xs.mapM f = some zs := by
  induction h with
  | nil => exact ⟨[], rfl⟩
  | cons hxy _ ih =>
    rw [List.forall_mem_cons] at hP
    obtain ⟨z, hz⟩ := hstep _ _ hxy hP.1
    obtain ⟨zs, hzs⟩ := ih hP.2
    exact ⟨z :: zs, by simp [hz, hzs]⟩

end Lists

@[simp] theorem ok_bind {α β : Type} (x : α) (f : α → Except Fault β) :
    (Except.ok x >>= f) = f x := rfl

@[simp] theorem pure_eq_ok {α : Type} (x : α) : (pure x : Except Fault α) = .ok x := rfl

/-! ## Scopes -/

theorem Scope.HidesNoGlobal.cons {name : String} {scope : Scope} (v : Value)
    (hscope : scope.HidesNoGlobal) (hname : Global.ofName? name = none) :
    HidesNoGlobal ((name, v) :: scope) := by
  intro g
  have hne : (g.name == name) = false := by
    have hall := List.find?_eq_none.mp hname g (by cases g <;> simp)
    simpa using hall
  rw [List.lookup_cons, hne]
  exact hscope g

namespace Expr

/-! ## Methods -/

variable {e : Expr} {scope : Scope} {v w : Value}

theorem isNullish_of_method? {method : String} (h : v.method? method = some w) :
    v.isNullish = false := by
  cases v with
  | undefined | null => exact absurd h (by simp [Value.method?])
  | _ => rfl

/-- A method without arguments returns what the value says. -/
theorem eval_method {method : String} (he : e.eval scope = .ok (.value v))
    (h : v.method? method = some w) : (e.invoke method []).eval scope = .ok (.value w) := by
  have hreceiver : (Referent.value v).receiver = .ok (.value v) := by
    rw [Referent.receiver, isNullish_of_method? h]
    rfl
  have hcall : v.callMethod method [] = .ok w := by
    simp [Value.callMethod, h]
  simp [invoke, eval, evalAll, he, hreceiver, Referent.callMethod, hcall]

/-- An arrow function that is given to `map` is called on one element after the other. -/
theorem eval_map {parameter : Binding} {body : Expr} {vs ws : List Value}
    (he : e.eval scope = .ok (.value (.array vs)))
    (h : List.Forall₂ (fun v w => ∃ bound, parameter.bind v = .ok bound ∧
      body.eval (bound ++ scope) = .ok (.value w)) vs ws) :
    (e.invoke "map" [arrow parameter body]).eval scope = .ok (.value (.array ws)) := by
  have hrun : vs.mapM (fun v => do
      let bound ← parameter.bind v
      (← body.eval (bound ++ scope)).asValue) = .ok ws := by
    apply mapM_ok_of_forall₂
    refine h.imp fun v w hvw => ?_
    obtain ⟨bound, hbound, hbody⟩ := hvw
    simp [hbound, hbody, Referent.asValue]
  have hreceiver : (Referent.value (.array vs)).receiver = .ok (.value (.array vs)) := rfl
  simp [invoke, eval, evalAll, he, hreceiver, Referent.callMethod, Value.callMethod, hrun]

/-! ## Names and parts -/

/-- A name that the scope gives a value stands for it. -/
theorem eval_ident {name : String} (h : scope.lookup name = some v) :
    (ident name).eval scope = .ok (.value v) := by
  rw [eval, Scope.denotes, h]

theorem eval_item {index : Nat} {vs : List Value} (he : e.eval scope = .ok (.value (.array vs))) :
    (item e index).eval scope = .ok (.value (vs.getD index .undefined)) := by
  simp [eval, he, Referent.element]

/-- The element that comes after as many others as the index says. -/
theorem eval_item_of_drop {index : Nat} {vs rest : List Value}
    (he : e.eval scope = .ok (.value (.array vs))) (h : vs.drop index = v :: rest) :
    (item e index).eval scope = .ok (.value v) := by
  rw [eval_item he, List.getD_eq_getElem?_getD, ← List.head?_drop, h]
  rfl

theorem mapM_asValue (vs : List Value) :
    (vs.map Referent.value).mapM Referent.asValue = .ok vs := by
  induction vs with
  | nil => rfl
  | cons v vs ih => simp [ih, Referent.asValue]

theorem eval_array {es : List Expr} {vs : List Value}
    (h : evalAll es scope = .ok (vs.map .value)) :
    (array es).eval scope = .ok (.value (.array vs)) := by
  simp only [eval, h, ok_bind, mapM_asValue, pure_eq_ok]

theorem eval_ifNull {whenNull otherwise : Expr} (he : e.eval scope = .ok (.value v)) :
    (ifNull e whenNull otherwise).eval scope =
      if v.isNullish then whenNull.eval scope else otherwise.eval scope := by
  rw [eval, he]
  rfl

/-- A function that is called where it is written. -/
theorem eval_call_arrow {name : String} {body : Expr} (he : e.eval scope = .ok (.value v))
    (hbody : body.eval ((name, v) :: scope) = .ok (.value w)) :
    (call (arrow (.whole name) body) [e]).eval scope = .ok (.value w) := by
  simp [eval, evalAll, he, Referent.call, Binding.bind, hbody, Referent.asValue]

/-! ## Global objects -/

section Globals

variable (hscope : scope.HidesNoGlobal)

include hscope

theorem denotes_global (g : Global) : scope.denotes g.name = .ok (.global g) := by
  rw [Scope.denotes, hscope g]
  cases g <;> rfl

theorem eval_global_method (g : Global) {method : String}
    (he : e.eval scope = .ok (.value v)) (h : g.callMethod method [.value v] = .ok w) :
    ((ident g.name).invoke method [e]).eval scope = .ok (.value w) := by
  have hreceiver : (Referent.global g).receiver = .ok (.global g) := rfl
  simp [invoke, eval, evalAll, denotes_global hscope g, he, hreceiver, Referent.callMethod, h]

theorem eval_date (he : e.eval scope = .ok (.value v)) (h : v.newDate? = some w) :
    (create "Date" [e]).eval scope = .ok (.value w) := by
  have hdate : scope.denotes "Date" = .ok (.global .date) := denotes_global hscope .date
  simp [eval, evalAll, hdate, he, Referent.create, h]

end Globals

end Expr

end WideColumn.Script
