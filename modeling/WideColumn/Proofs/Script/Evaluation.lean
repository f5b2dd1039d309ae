import WideColumn.Script.Expr
import WideColumn.Proofs.Script.Value

/-!
# What script expressions evaluate to

An expression is evaluated in a scope, which gives names their values. The names of the global
objects mean these objects wherever no scope gives them another value. Scoping is lexical: an arrow
function is a function of Lean that puts its parameter in front of the scope it was written in.

Design points:

* Evaluation follows the structure of the expression. There are no loops in the fragment but those
  of `map` and its like, and no function can call itself.
* An expression without a value has a fault. `Fault.unmodelled` stands for everything that scripts
  can do and this module does not say, so an expression with a value is one that is described in
  full.
* Parts are evaluated from left to right, and a method is looked up before its arguments are
  evaluated.

Main definitions: `Expr.eval`, `Expr.free`.
Main result: `Expr.eval_congr`, a value depends on the scope through the free names only.
-/

namespace WideColumn.Script

/-- Why an expression has no value. -/
inductive Fault where
  /-- The name has no value. -/
  | reference (name : String)
  /-- A property of `null` or `undefined` is asked for, or a call is made of what is no function. -/
  | type
  /-- What a script does here is not described. -/
  | unmodelled
  deriving DecidableEq, Repr

/-- A global object. -/
inductive Global where
  | object
  | array
  | date
  deriving DecidableEq, Repr

/-- What an expression can stand for. -/
inductive Referent where
  | value (v : Value)
  | function (run : Value → Except Fault Value)
  | global (g : Global)

/-- The names that have values, the innermost ones first. -/
abbrev Scope := List (String × Value)

/-! ## Names -/

/-- The name of a global object. -/
def Global.name : Global → String
  | object => "Object"
  | array => "Array"
  | date => "Date"

/-- The global object with the name. -/
def Global.ofName? (name : String) : Option Global := [object, array, date].find? (·.name == name)

namespace Scope

/-- What a name stands for. -/
def denotes (scope : Scope) (name : String) : Except Fault Referent :=
  match scope.lookup name with
  | some v => .ok (.value v)
  | none =>
    match Global.ofName? name with
    | some g => .ok (.global g)
    | none => .error (.reference name)

/-- No name of a global object has another value. -/
def HidesNoGlobal (scope : Scope) : Prop := ∀ g : Global, scope.lookup g.name = none

end Scope

/-- The names that a parameter binds. -/
def Binding.names : Binding → List String
  | whole name => [name]
  | pair first second => [first, second]

/-- Why something cannot be done with a value that other values allow. -/
def Value.fault (v : Value) : Fault := if v.isNullish then .type else .unmodelled

/-- What an argument gives to the names of the parameter. An element that is missing is
`undefined`. -/
def Binding.bind : Binding → Value → Except Fault Scope
  | whole name, v => .ok [(name, v)]
  | pair first second, v =>
    match v.iterated? with
    | some vs => .ok [(first, vs.getD 0 .undefined), (second, vs.getD 1 .undefined)]
    | none => .error v.fault

/-! ## Operations -/

/-- A method of a value. Only `map` takes an argument. -/
def Value.callMethod : Value → String → List Referent → Except Fault Value
  | .array vs, "map", [.function run] => .array <$> vs.mapM run
  | v, method, [] =>
    match v.method? method with
    | some w => .ok w
    | none => .error v.fault
  | v, _, _ => .error v.fault

/-- A method of a global object. -/
def Global.callMethod : Global → String → List Referent → Except Fault Value
  | .object, "entries", [.value (.record properties)] => .ok (.array (properties.map Value.ofEntry))
  | .object, "fromEntries", [.value (.array vs)] =>
    match vs.mapM Value.entry? with
    | some entries => .ok (.record (ofEntries entries))
    | none => .error .unmodelled
  | .array, "from", [.value v] =>
    match v.iterated? with
    | some vs => .ok (.array vs)
    | none => .error v.fault
  | _, _, _ => .error .unmodelled

namespace Referent

/-- The value that is stored or returned. -/
def asValue : Referent → Except Fault Value
  | value v => .ok v
  | _ => .error .unmodelled

/-- The object that a property is asked of. -/
def receiver : Referent → Except Fault Referent
  | value v => if v.isNullish then .error .type else .ok (value v)
  | d => .ok d

/-- The result of a method. -/
def callMethod : Referent → String → List Referent → Except Fault Value
  | value v, method, inputs => v.callMethod method inputs
  | global g, method, inputs => g.callMethod method inputs
  | function _, _, _ => .error .unmodelled

/-- The result of a function. -/
def call : Referent → List Referent → Except Fault Value
  | function run, [value v] => run v
  | function _, _ => .error .unmodelled
  | _, _ => .error .type

/-- A new object of a class. -/
def create : Referent → List Referent → Except Fault Value
  | global .date, [value v] =>
    match v.newDate? with
    | some w => .ok w
    | none => .error .unmodelled
  | _, _ => .error .unmodelled

/-- An element by its index. -/
def element (index : Nat) : Referent → Except Fault Value
  | value (.array vs) => .ok (vs.getD index .undefined)
  | value v => .error v.fault
  | _ => .error .unmodelled

/-- The value is `null` or `undefined`. -/
def isNullish : Referent → Bool
  | value v => v.isNullish
  | _ => false

end Referent

namespace Expr

/-! ## Evaluation -/

mutual

/-- What the expression stands for in a scope. -/
def eval : Expr → Scope → Except Fault Referent
  | ident name, scope => scope.denotes name
  -- A property that is not called. The one that is called is part of the call.
  | member _ _, _ => .error .unmodelled
  | item object index, scope => do
    let receiver ← object.eval scope
    return .value (← receiver.element index)
  | call (member object method) arguments, scope => do
    let receiver ← (← object.eval scope).receiver
    let inputs ← evalAll arguments scope
    return .value (← receiver.callMethod method inputs)
  | call callee arguments, scope => do
    let function ← callee.eval scope
    let inputs ← evalAll arguments scope
    return .value (← function.call inputs)
  | create className arguments, scope => do
    let constructor ← scope.denotes className
    let inputs ← evalAll arguments scope
    return .value (← constructor.create inputs)
  | array elements, scope => do
    let vs ← (← evalAll elements scope).mapM Referent.asValue
    return .value (.array vs)
  | arrow parameter body, scope =>
    .ok (.function fun v => do
      let bound ← parameter.bind v
      (← body.eval (bound ++ scope)).asValue)
  | ifNull subject whenNull otherwise, scope => do
    let d ← subject.eval scope
    if d.isNullish then whenNull.eval scope else otherwise.eval scope

/-- What several expressions stand for, from left to right. -/
def evalAll : List Expr → Scope → Except Fault (List Referent)
  | [], _ => .ok []
  | e :: r, scope => do
    let d ← e.eval scope
    let ds ← evalAll r scope
    return d :: ds

end

theorem eval_call {callee : Expr} (h : ∀ object method, callee ≠ member object method)
    (arguments : List Expr) (scope : Scope) :
    (call callee arguments).eval scope = do
      let function ← callee.eval scope
      let inputs ← evalAll arguments scope
      return .value (← function.call inputs) := by
  rw [eval]
  exact h

/-! ## Free names -/

mutual

/-- The names that the scope of the expression has to give a value. -/
def free : Expr → List String
  | ident name => [name]
  | member object _ | item object _ => object.free
  | call callee arguments => callee.free ++ freeAll arguments
  | create className arguments => className :: freeAll arguments
  | array elements => freeAll elements
  | arrow parameter body => body.free.filter (· ∉ parameter.names)
  | ifNull subject whenNull otherwise => subject.free ++ whenNull.free ++ otherwise.free

/-- The names that the scope of several expressions has to give a value. -/
def freeAll : List Expr → List String
  | [] => []
  | e :: r => e.free ++ freeAll r

end

theorem free_ident (name : String) : (ident name).free = [name] := rfl

theorem free_invoke (object : Expr) (method : String) (arguments : List Expr) :
    (object.invoke method arguments).free = object.free ++ freeAll arguments := rfl

theorem freeAll_singleton (e : Expr) : freeAll [e] = e.free := List.append_nil _

/-- Parameters are not free in arrow functions. -/
theorem free_arrow {parameter : Binding} {body : Expr} {names : List String}
    (h : body.free ⊆ parameter.names ++ names) : (arrow parameter body).free ⊆ names := by
  intro name hname
  rw [free, List.mem_filter, decide_eq_true_eq] at hname
  rcases List.mem_append.mp (h hname.1) with hbound | hfree
  · exact absurd hbound hname.2
  · exact hfree

/-! ## Only free names matter -/

theorem bind_names {parameter : Binding} {v : Value} {bound : Scope}
    (h : parameter.bind v = .ok bound) : bound.map Prod.fst = parameter.names := by
  cases parameter with
  | whole name =>
    obtain rfl := Except.ok.inj h
    rfl
  | pair first second =>
    rw [Binding.bind] at h
    split at h
    · obtain rfl := Except.ok.inj h
      rfl
    · contradiction

/-- A name has the same value inside an arrow function if its parameter binds the name, or if the
two scopes around the function agree on it. -/
theorem lookup_bound_eq {bound s t : Scope} {name : String}
    (h : name ∉ bound.map Prod.fst → s.lookup name = t.lookup name) :
    (bound ++ s).lookup name = (bound ++ t).lookup name := by
  induction bound with
  | nil => exact h (by simp)
  | cons binding rest ih =>
    obtain ⟨other, v⟩ := binding
    rw [List.cons_append, List.cons_append, List.lookup_cons, List.lookup_cons]
    cases hother : name == other with
    | true => rfl
    | false =>
      refine ih fun hrest => h ?_
      rw [List.map_cons, List.mem_cons, not_or]
      exact ⟨by simpa using hother, hrest⟩

theorem denotes_congr {s t : Scope} {name : String} (h : s.lookup name = t.lookup name) :
    s.denotes name = t.denotes name := by
  rw [Scope.denotes, Scope.denotes, h]

mutual

/-- What an expression stands for depends on nothing but the values of its free names. -/
theorem eval_congr (e : Expr) {s t : Scope} (h : ∀ name ∈ e.free, s.lookup name = t.lookup name) :
    e.eval s = e.eval t := by
  cases e with
  | ident name =>
    rw [eval, eval]
    exact denotes_congr (h name (by simp [free]))
  | member object property => rw [eval, eval]
  | item object index => rw [eval, eval, eval_congr object h]
  | call callee arguments =>
    simp only [free, List.forall_mem_append] at h
    have harguments := evalAll_congr arguments h.2
    -- The object of a method is evaluated instead of the callee.
    by_cases hmethod : ∃ object method, callee = member object method
    · obtain ⟨object, method, rfl⟩ := hmethod
      rw [eval, eval, eval_congr object h.1, harguments]
    · have hcallee : ∀ object method, callee ≠ member object method := by
        intro object method heq
        exact hmethod ⟨object, method, heq⟩
      rw [eval_call hcallee arguments s, eval_call hcallee arguments t, eval_congr callee h.1,
        harguments]
  | create className arguments =>
    simp only [free, List.forall_mem_cons] at h
    rw [eval, eval, denotes_congr h.1, evalAll_congr arguments h.2]
  | array elements => rw [eval, eval, evalAll_congr elements h]
  | arrow parameter body =>
    rw [eval, eval]
    -- Two functions are the same if they are so on every argument, and it is bound in both.
    congr 2
    funext v
    cases hbound : parameter.bind v with
    | error fault => rfl
    | ok bound =>
      have hbody : body.eval (bound ++ s) = body.eval (bound ++ t) := by
        refine eval_congr body fun name hname => lookup_bound_eq fun hfree => h name ?_
        rw [bind_names hbound] at hfree
        exact List.mem_filter.mpr ⟨hname, by simpa using hfree⟩
      show (do (← body.eval (bound ++ s)).asValue) = (do (← body.eval (bound ++ t)).asValue)
      rw [hbody]
  | ifNull subject whenNull otherwise =>
    simp only [free, List.forall_mem_append] at h
    rw [eval, eval, eval_congr subject h.1.1, eval_congr whenNull h.1.2, eval_congr otherwise h.2]

theorem evalAll_congr (es : List Expr) {s t : Scope}
    (h : ∀ name ∈ freeAll es, s.lookup name = t.lookup name) : evalAll es s = evalAll es t := by
  cases es with
  | nil => rfl
  | cons e r =>
    simp only [freeAll, List.forall_mem_append] at h
    rw [evalAll, evalAll, eval_congr e h.1, evalAll_congr r h.2]

end

end Expr

end WideColumn.Script
