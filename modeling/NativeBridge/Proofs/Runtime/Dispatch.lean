import NativeBridge.Proofs.Native.Transcript
import NativeBridge.Proofs.Registry.Lookup
import NativeBridge.Runtime

/-!
# Calls of native code

Six of a runtime's operations resolve a binding and call its native code. `Runtime.dispatch?` finds
the call, if the operation gets that far, and `Runtime.Dispatches` says which bindings it comes
from. An operation that does not get that far is `Runtime.Refused`. One that does answers what its
call answers (`Runtime.Relayed`), or checks what a constructor has returned
(`Runtime.Constructed`).
-/

namespace NativeBridge

variable {C : Catalog}

/-- The handle whose instance an operation is about. -/
def Operation.target? : Operation → Option Handle
  | .getField h _ | .setField h _ _ | .callMethod h _ _ | .release h | .share h | .copy h
  | .typeOf h => some h
  | _ => none

/-- A call of native code for an operation. -/
structure Dispatch (C : Catalog) where
  native : NativeFn C
  site : CallSite
  receiver : Option Handle
  args : List HostValue

namespace Dispatch

/-- What the call leaves behind. -/
def effect (d : Dispatch C) (rt : Runtime C) : Invoker.Effect C HostValue :=
  rt.invoker.invoke d.native d.site d.receiver d.args rt.heap

/-- The exchanges of the call. -/
def transcript (d : Dispatch C) (rt : Runtime C) : Transcript C :=
  rt.invoker.transcript d.native d.site d.receiver d.args rt.heap

/-- The exchanges of native code lead from the heap before it to the one after it. -/
theorem leads (d : Dispatch C) (rt : Runtime C) :
    (d.transcript rt).Leads d.receiver rt.heap (d.effect rt).heap :=
  rt.invoker.invoke_leads d.native d.site d.receiver d.args rt.heap

/-- A call lets the heap evolve, by the handles that its native code issues. -/
theorem evolves (d : Dispatch C) (rt : Runtime C) :
    Heap.Evolves rt.heap (d.transcript rt).issued (d.effect rt).heap :=
  (d.leads rt).evolves

end Dispatch

namespace ClassEntry

/-- The call of a constructor. -/
def construction (e : ClassEntry C) (c : ConstructorMeta C) (args : List HostValue) : Dispatch C :=
  ⟨c.native, .constructor e.name c.params, none, args⟩

end ClassEntry

namespace Runtime

/-- The call that an operation comes to. -/
def dispatch? (rt : Runtime C) : Operation → Option (Dispatch C)
  | .call name args => do
    let f ← (rt.registry.function name).toOption
    some ⟨f.native, .function f.name f.params, none, args⟩
  | .construct typeName args => do
    let e ← (rt.registry.classNamed typeName).toOption
    let c ← e.constructor
    some (e.construction c args)
  | .constructWith typeName args keywords => do
    let e ← (rt.registry.classNamed typeName).toOption
    let c ← e.constructor
    let args ← (bindKeywords e.name c.params args keywords).toOption
    some (e.construction c args)
  | .getField h name => do
    let e ← (rt.classFor h).toOption
    let f ← (e.field name).toOption
    some ⟨f.getter, .field e.name f.name [], some h, []⟩
  | .setField h name v => do
    let e ← (rt.classFor h).toOption
    let f ← (e.field name).toOption
    let setter ← f.setter
    some ⟨setter, .field e.name f.name [⟨f.name, f.kind⟩], some h, [v]⟩
  | .callMethod h name args => do
    let e ← (rt.classFor h).toOption
    let m ← (e.method name).toOption
    some ⟨m.native, .method e.name m.name m.params, some h, args⟩
  | _ => none

/-- The calls of each operation, by the bindings that it resolves. -/
inductive Dispatches (rt : Runtime C) : Operation → Dispatch C → Prop
  | call {name : String} {args : List HostValue} {f : FunctionMeta C}
      (function : rt.registry.function name = .ok f) :
      Dispatches rt (.call name args) ⟨f.native, .function f.name f.params, none, args⟩
  | construct {typeName : String} {args : List HostValue} {e : ClassEntry C} {c : ConstructorMeta C}
      (entry : rt.registry.classNamed typeName = .ok e) (present : e.constructor = some c) :
      Dispatches rt (.construct typeName args) (e.construction c args)
  | constructWith {typeName : String} {args bound : List HostValue}
      {keywords : List (String × HostValue)} {e : ClassEntry C} {c : ConstructorMeta C}
      (entry : rt.registry.classNamed typeName = .ok e) (present : e.constructor = some c)
      (binding : bindKeywords e.name c.params args keywords = .ok bound) :
      Dispatches rt (.constructWith typeName args keywords) (e.construction c bound)
  | getField {h : Handle} {name : String} {e : ClassEntry C} {f : FieldMeta C}
      (entry : rt.classFor h = .ok e) (field : e.field name = .ok f) :
      Dispatches rt (.getField h name) ⟨f.getter, .field e.name f.name [], some h, []⟩
  | setField {h : Handle} {name : String} {v : HostValue} {e : ClassEntry C} {f : FieldMeta C}
      {setter : NativeFn C} (entry : rt.classFor h = .ok e) (field : e.field name = .ok f)
      (writable : f.setter = some setter) :
      Dispatches rt (.setField h name v)
        ⟨setter, .field e.name f.name [⟨f.name, f.kind⟩], some h, [v]⟩
  | callMethod {h : Handle} {name : String} {args : List HostValue} {e : ClassEntry C}
      {m : MethodMeta C} (entry : rt.classFor h = .ok e) (method : e.method name = .ok m) :
      Dispatches rt (.callMethod h name args)
        ⟨m.native, .method e.name m.name m.params, some h, args⟩

/-- What is dispatched, as a relation : one rule for each operation that calls native code. -/
theorem dispatch?_eq_some_iff {rt : Runtime C} {op : Operation} {d : Dispatch C} :
    rt.dispatch? op = some d ↔ rt.Dispatches op d := by
  refine ⟨fun dispatch => ?_, fun dispatches => ?_⟩
  · cases op with
    | call name args =>
      obtain ⟨f, hf, same⟩ := toOption_bind_eq_some_iff.1 dispatch
      cases same
      exact .call hf
    | construct typeName args =>
      obtain ⟨e, he, rest⟩ := toOption_bind_eq_some_iff.1 dispatch
      obtain ⟨c, hc, same⟩ := Option.bind_eq_some_iff.1 rest
      cases same
      exact .construct he hc
    | constructWith typeName args keywords =>
      obtain ⟨e, he, rest⟩ := toOption_bind_eq_some_iff.1 dispatch
      obtain ⟨c, hc, rest⟩ := Option.bind_eq_some_iff.1 rest
      obtain ⟨bound, hb, same⟩ := toOption_bind_eq_some_iff.1 rest
      cases same
      exact .constructWith he hc hb
    | getField h name =>
      obtain ⟨e, he, rest⟩ := toOption_bind_eq_some_iff.1 dispatch
      obtain ⟨f, hf, same⟩ := toOption_bind_eq_some_iff.1 rest
      cases same
      exact .getField he hf
    | setField h name v =>
      obtain ⟨e, he, rest⟩ := toOption_bind_eq_some_iff.1 dispatch
      obtain ⟨f, hf, rest⟩ := toOption_bind_eq_some_iff.1 rest
      obtain ⟨setter, hs, same⟩ := Option.bind_eq_some_iff.1 rest
      cases same
      exact .setField he hf hs
    | callMethod h name args =>
      obtain ⟨e, he, rest⟩ := toOption_bind_eq_some_iff.1 dispatch
      obtain ⟨m, hm, same⟩ := toOption_bind_eq_some_iff.1 rest
      cases same
      exact .callMethod he hm
    | release | share | copy | typeOf | state | holders => cases dispatch
  · cases dispatches with
    | call function => simp [dispatch?, function, Except.toOption]
    | construct entry present => simp [dispatch?, entry, present, Except.toOption]
    | constructWith entry present binding =>
      simp [dispatch?, entry, present, binding, Except.toOption]
    | getField entry field => simp [dispatch?, entry, field, Except.toOption]
    | setField entry field writable => simp [dispatch?, entry, field, writable, Except.toOption]
    | callMethod entry method => simp [dispatch?, entry, method, Except.toOption]

/-! ## Each operation by its call -/

section Calls

variable (rt : Runtime C)

/-- The operation is refused, before any native code runs. -/
def Refused (op : Operation) : Prop :=
  ∃ e, rt.dispatch? op = none ∧ rt.perform op = rt.answer (.error e)

/-- The operation answers what its call answers. -/
def Relayed (op : Operation) (answer : HostValue → Response) : Prop :=
  ∃ d, rt.dispatch? op = some d ∧ rt.perform op = rt.finish (d.effect rt) answer

/-- The operation calls a constructor and checks what it returns. -/
def Constructed (op : Operation) : Prop :=
  ∃ e c args, e ∈ rt.registry.classes ∧ e.constructor = some c ∧
    rt.dispatch? op = some (e.construction c args) ∧
    rt.perform op = rt.finish (checkConstructed e ((e.construction c args).effect rt)) .handle

/-- A call is refused, or passed on to the function of that name. -/
theorem call_cases (name : String) (args : List HostValue) :
    rt.Refused (.call name args) ∨ rt.Relayed (.call name args) .value := by
  unfold Refused Relayed
  simp only [dispatch?, perform, call]
  cases rt.registry.function name with
  | error e => exact Or.inl ⟨e, rfl, rfl⟩
  | ok f => exact Or.inr ⟨_, rfl, rfl⟩

theorem getField_cases (h : Handle) (name : String) :
    rt.Refused (.getField h name) ∨ rt.Relayed (.getField h name) .value := by
  unfold Refused Relayed
  simp only [dispatch?, perform, getField]
  cases rt.classFor h with
  | error e => exact Or.inl ⟨e, rfl, rfl⟩
  | ok e =>
    dsimp only
    cases hf : e.field name with
    | error cause => exact Or.inl ⟨cause, by simp [hf, Except.toOption], rfl⟩
    | ok f =>
      exact Or.inr ⟨⟨f.getter, .field e.name f.name [], some h, []⟩,
        by simp [hf, Except.toOption], rfl⟩

theorem finish_bind_done (r : Invoker.Effect C HostValue) :
    rt.finish { r with outcome := r.outcome.bind fun _ => .ok () } (fun _ => .done) =
      rt.finish r fun _ => .done := by
  unfold finish
  cases r.outcome <;> rfl

/-- A write is refused, or passed on to the setter. What that returns is not told. -/
theorem setField_cases (h : Handle) (name : String) (v : HostValue) :
    rt.Refused (.setField h name v) ∨ rt.Relayed (.setField h name v) fun _ => .done := by
  unfold Refused Relayed
  simp only [dispatch?, perform, setField]
  cases rt.classFor h with
  | error e => exact Or.inl ⟨e, rfl, rfl⟩
  | ok e =>
    dsimp only
    cases hf : e.field name with
    | error cause => exact Or.inl ⟨cause, by simp [hf, Except.toOption], rfl⟩
    | ok f =>
      dsimp only
      cases hs : f.setter with
      | none => exact Or.inl ⟨_, by simp [hf, hs, Except.toOption], rfl⟩
      | some setter =>
        exact Or.inr ⟨⟨setter, .field e.name f.name [⟨f.name, f.kind⟩], some h, [v]⟩,
          by simp [hf, hs, Except.toOption], rt.finish_bind_done _⟩

theorem callMethod_cases (h : Handle) (name : String) (args : List HostValue) :
    rt.Refused (.callMethod h name args) ∨ rt.Relayed (.callMethod h name args) .value := by
  unfold Refused Relayed
  simp only [dispatch?, perform, callMethod]
  cases rt.classFor h with
  | error e => exact Or.inl ⟨e, rfl, rfl⟩
  | ok e =>
    dsimp only
    cases hm : e.method name with
    | error cause => exact Or.inl ⟨cause, by simp [hm, Except.toOption], rfl⟩
    | ok m =>
      exact Or.inr ⟨⟨m.native, .method e.name m.name m.params, some h, args⟩,
        by simp [hm, Except.toOption], rfl⟩

/-- A construction is refused, or passed on to the constructor. -/
theorem construct_cases (typeName : String) (args : List HostValue) :
    rt.Refused (.construct typeName args) ∨ rt.Constructed (.construct typeName args) := by
  unfold Refused Constructed
  simp only [dispatch?, perform, construct]
  cases he : rt.registry.classNamed typeName with
  | error cause => exact Or.inl ⟨cause, rfl, rfl⟩
  | ok e =>
    dsimp only [runConstructor]
    cases hc : e.constructor with
    | none => exact Or.inl ⟨_, by simp [hc, Except.toOption], rfl⟩
    | some c =>
      exact Or.inr ⟨e, c, args, Registry.mem_of_classNamed he, hc,
        by simp [hc, Except.toOption], rfl⟩

/-- Keywords are put in order before the constructor is called, or the construction is refused. -/
theorem constructWith_cases (typeName : String) (args : List HostValue)
    (keywords : List (String × HostValue)) :
    rt.Refused (.constructWith typeName args keywords) ∨
      rt.Constructed (.constructWith typeName args keywords) := by
  unfold Refused Constructed
  simp only [dispatch?, perform, constructWith]
  cases he : rt.registry.classNamed typeName with
  | error cause => exact Or.inl ⟨cause, rfl, rfl⟩
  | ok e =>
    dsimp only [runConstructor]
    cases hc : e.constructor with
    | none => exact Or.inl ⟨_, by simp [hc, Except.toOption], rfl⟩
    | some c =>
      dsimp only
      cases hb : bindKeywords e.name c.params args keywords with
      | error cause => exact Or.inl ⟨cause, by simp [hc, hb, Except.toOption], rfl⟩
      | ok bound =>
        refine Or.inr ⟨e, c, bound, Registry.mem_of_classNamed he, hc, ?_, rfl⟩
        simp [hc, hb, Except.toOption]

end Calls

end Runtime

end NativeBridge
