import WideColumn.Proofs.Script.Steps

/-!
# Faults of evaluation

A fault of a part is a fault of the whole, for nothing in the fragment catches one. An expression
faults that asks `null` or `undefined` for a method, and so does one that maps a function over an
array with an element on which the function faults. Which fault it is depends on what is evaluated
first.

Main definition: `Faults`.
Main results: `Expr.faults_invoke_of_isNullish`, `Expr.faults_map`, `Expr.faults_call_arrow`.
-/

namespace WideColumn.Script

@[simp] theorem error_bind {α β : Type} (fault : Fault) (f : α → Except Fault β) :
    (Except.error fault >>= f) = .error fault := rfl

/-- There is no value, but a fault. -/
def Faults {α : Type} (result : Except Fault α) : Prop := ∃ fault, result = .error fault

namespace Faults

variable {α β : Type} {result : Except Fault α} {next : α → Except Fault β}

theorem ne_ok (h : Faults result) (x : α) : result ≠ .ok x := by
  obtain ⟨fault, rfl⟩ := h
  nofun

/-- What is done with the value is not reached. -/
theorem bind (h : Faults result) : Faults (result >>= next) := by
  obtain ⟨fault, rfl⟩ := h
  exact ⟨fault, rfl⟩

/-- What is done with any value faults. -/
theorem of_next (h : ∀ x, result = .ok x → Faults (next x)) : Faults (result >>= next) := by
  cases hresult : result with
  | error fault => exact ⟨fault, rfl⟩
  | ok x => exact h x hresult

/-- A run over a list faults if it does so on one element, whether or not it comes so far. -/
theorem mapM {run : α → Except Fault β} {xs : List α} {x : α} (hx : x ∈ xs)
    (h : Faults (run x)) : Faults (xs.mapM run) := by
  induction xs with
  | nil => exact absurd hx List.not_mem_nil
  | cons y ys ih =>
    rw [List.mapM_cons]
    rcases List.mem_cons.mp hx with rfl | hmem
    · exact h.bind
    · exact of_next fun _ _ => (ih hmem).bind

end Faults

namespace Expr

variable {e : Expr} {scope : Scope} {v : Value}

/-! ## Parts -/

theorem faults_array {es : List Expr} (h : Faults (evalAll es scope)) :
    Faults ((array es).eval scope) := by
  rw [eval]
  exact h.bind

theorem faults_evalAll_head {es : List Expr} (h : Faults (e.eval scope)) :
    Faults (evalAll (e :: es) scope) := by
  rw [evalAll]
  exact h.bind

theorem faults_evalAll_tail {es : List Expr} (h : Faults (evalAll es scope)) :
    Faults (evalAll (e :: es) scope) := by
  rw [evalAll]
  exact .of_next fun _ _ => h.bind

/-! ## Methods -/

variable {method : String} {arguments : List Expr}

theorem faults_invoke (h : Faults (e.eval scope)) :
    Faults ((e.invoke method arguments).eval scope) := by
  rw [invoke, eval]
  exact h.bind

/-- There are no methods to call on `null` and `undefined`. -/
theorem faults_invoke_of_isNullish (he : e.eval scope = .ok (.value v))
    (h : v.isNullish = true) : Faults ((e.invoke method arguments).eval scope) := by
  refine ⟨.type, ?_⟩
  rw [invoke, eval, he, ok_bind, Referent.receiver, if_pos h]
  rfl

theorem faults_invoke_arguments (h : Faults (evalAll arguments scope)) :
    Faults ((e.invoke method arguments).eval scope) := by
  rw [invoke, eval]
  exact .of_next fun _ _ => .of_next fun _ _ => h.bind

/-- An arrow function that is given to `map` faults on one of the elements. -/
theorem faults_map {parameter : Binding} {body : Expr} {vs : List Value} {bound : Scope}
    (he : e.eval scope = .ok (.value (.array vs))) (hv : v ∈ vs)
    (hbound : parameter.bind v = .ok bound) (h : Faults (body.eval (bound ++ scope))) :
    Faults ((e.invoke "map" [arrow parameter body]).eval scope) := by
  have hrun : Faults (vs.mapM fun v => do
      let bound ← parameter.bind v
      (← body.eval (bound ++ scope)).asValue) := by
    refine .mapM hv ?_
    rw [hbound, ok_bind]
    exact h.bind
  have hreceiver : (Referent.value (.array vs)).receiver = .ok (.value (.array vs)) := rfl
  obtain ⟨fault, hfault⟩ := hrun
  refine ⟨fault, ?_⟩
  simp [invoke, eval, evalAll, he, hreceiver, Referent.callMethod, Value.callMethod, hfault]

theorem faults_global_method (hscope : scope.HidesNoGlobal) (g : Global)
    (he : e.eval scope = .ok (.value v)) (h : Faults (g.callMethod method [.value v])) :
    Faults (((ident g.name).invoke method [e]).eval scope) := by
  have hreceiver : (Referent.global g).receiver = .ok (.global g) := rfl
  obtain ⟨fault, hfault⟩ := h
  refine ⟨fault, ?_⟩
  simp [invoke, eval, evalAll, denotes_global hscope g, he, hreceiver, Referent.callMethod, hfault]

/-! ## Functions -/

theorem faults_call_arguments {callee : Expr} (hcallee : ∀ object name, callee ≠ member object name)
    (h : Faults (evalAll arguments scope)) : Faults ((call callee arguments).eval scope) := by
  rw [eval_call hcallee]
  exact .of_next fun _ _ => h.bind

theorem faults_call_arrow {name : String} {body : Expr} (he : e.eval scope = .ok (.value v))
    (h : Faults (body.eval ((name, v) :: scope))) :
    Faults ((call (arrow (.whole name) body) [e]).eval scope) := by
  obtain ⟨fault, hfault⟩ := h
  refine ⟨fault, ?_⟩
  simp [eval, evalAll, he, Referent.call, Binding.bind, hfault]

end Expr

end WideColumn.Script
