import NativeBridge.Proofs.Marshal.Kinds
import NativeBridge.Proofs.Wrapper.Failure
import NativeBridge.Proofs.Wrapper.Generated
import NativeBridge.Proofs.Wrapper.Invocation

/-!
# Signatures and calls

A generated descriptor declares parameters and a result by their kinds, and pairs them with the
wrapper of a callable (`Callable.Declares`). Both come from one signature, and the conversions of the
wrapper honour the kinds of that. So a call that succeeds keeps to what has been declared
(`Callable.Honours`) : as many arguments as parameters, each of the kind of its parameter, and a
result of the kind declared for it.

Nor does a wrapper ask for an argument as anything but the parameter of its place
(`Callable.Wraps.declared`).

`signature_honoured` puts the three parts together : conversions to the host, conversions from the
host, and calls.
-/

namespace NativeBridge

variable {C : Catalog}

/-! ## Declarations -/

/-- A generated descriptor declares these parameters and this result, and its native code wraps the
callable. A constructor returns an instance of its class; a setter takes the field itself and returns
nothing. -/
inductive Callable.Declares : Callable C → List Param → Kind → NativeFn C → Prop
  | function (c : Callable C) (name : String) :
      Declares c (c.toFunction name).params (c.toFunction name).returns (c.toFunction name).native
  | method (c : Callable C) (o : C.Obj) (name : String) :
      Declares c (c.toMethod o name).params (c.toMethod o name).returns (c.toMethod o name).native
  | constructor {c : Callable C} {o : C.Obj} (makes : c.Constructs o) :
      Declares c (c.toConstructor o).params (.object (C.name o)) (c.toConstructor o).native
  | getter {o : C.Obj} (p : Property C o) : Declares p.reader [] p.toField.kind p.toField.getter
  | setter {o : C.Obj} (p : Property C o) {set : p.type.Value → C.Instance o → C.Instance o}
      {native : NativeFn C} (writable : p.set = some set) (present : p.toField.setter = some native) :
      Declares (p.writer set) [⟨p.toField.name, p.toField.kind⟩] .none native

variable {c : Callable C} {params : List Param} {returns : Kind} {native : NativeFn C}

/-- What is declared is the signature of the callable. -/
theorem Callable.Declares.signature (declares : c.Declares params returns native) :
    params = c.paramMetas ∧ returns = c.returns.kind ∧ c.Wraps native.code := by
  cases declares with
  | function => exact ⟨rfl, rfl, .callable c⟩
  | method => exact ⟨rfl, rfl, .callable c⟩
  | @constructor _ o makes => exact ⟨rfl, by rw [makes.2, NativeType.kind], .callable c⟩
  | getter p => exact ⟨rfl, rfl, .getter p⟩
  | @setter o p set native writable present =>
    refine ⟨rfl, rfl, ?_⟩
    rw [Property.toField, writable] at present
    cases present
    exact .setter p set

/-! ## What wrappers ask for -/

/-- An argument is asked for as the parameter of its place. -/
def Request.Declared (ps : List (Parameter C)) : Request C → Prop
  | arg index t => ∃ p, ps[index]? = some p ∧ p.type = t
  | _ => True

/-- Wrappers ask for arguments as the parameters of their callables. -/
theorem Callable.Wraps.declared {c : Callable C} {code : Native C Unit} (wraps : c.Wraps code) :
    code.Throughout fun e => e.request.Declared c.params := by
  have wrapping := Native.wrapping_throughout (P := fun e => e.request.Declared c.params)
    fun _ _ _ => trivial
  have args : ∀ i p, c.params[i]? = some p →
      (Native.arg i p.type).Throughout fun e => e.request.Declared c.params :=
    fun i p place => Native.throughout_arg i p.type fun _ _ => ⟨p, place, rfl⟩
  have changes : ∀ o change,
      (Native.thisMut o change).Throughout fun e => e.request.Declared c.params :=
    fun o change => Native.throughout_ask Native.transcript_demand fun _ _ => trivial
  have sets : ∀ t v, (Native.setReturn t v).Throughout fun e => e.request.Declared c.params :=
    fun t v => Native.throughout_ask Native.transcript_demand fun _ _ => trivial
  cases wraps with
  | callable => exact wrapping.code c args (fun o _ _ => changes o) (sets c.returns)
  | getter p => exact wrapping.getter p (sets p.type)
  | @setter o p set => exact wrapping.setter p set (args 0 ⟨_, p.type⟩ rfl) (changes o)

/-! ## Calls that succeed -/

/-- A call with these arguments and this result keeps to the declared parameters and result. -/
structure Callable.Honours (c : Callable C) (params : List Param) (returns : Kind)
    (policy : NumericPolicy) (args : List HostValue) (before : Heap C) (result : HostValue)
    (after : Heap C) : Prop where
  arity : args.length = params.length
  arguments : ∀ (i : Nat) (d : Param) (v : HostValue), params[i]? = some d → args[i]? = some v →
    ∃ p, c.params[i]? = some p ∧ p.type.kind = d.kind ∧ p.type.Takes policy before v
  result : c.returns.kind = returns ∧ c.returns.Presents after result

/-- If the arguments convert, each does to the type of its parameter. -/
theorem Converts.of_getElem? {policy : NumericPolicy} {heap : Heap C} {ps : List (Parameter C)}
    {args : List HostValue} {values : Arguments ps} (converts : Converts policy heap ps args values)
    {i : Nat} {p : Parameter C} {v : HostValue} (param : ps[i]? = some p) (arg : args[i]? = some v) :
    ∃ a, p.type.fromHost policy heap v = .ok a := by
  induction converts generalizing i with
  | nil => cases param
  | @cons q ps w vs a as first rest ih =>
    cases i with
    | zero =>
      cases param
      cases arg
      exact ⟨a, first⟩
    | succ i => exact ih param arg

/-- The function leaves the free slots alone. -/
theorem Body.Applies.wellFormed {ps : List (Parameter C)} {t : NativeType C} {body : Body C ps t}
    {heap after : Heap C} {receiver : Option Handle} {values : Arguments ps}
    {outcome : Outcome String t.Value} (applies : body.Applies heap receiver values outcome after)
    (wf : heap.WellFormed) : after.WellFormed := by
  cases applies with
  | free | reading | copying => exact wf
  | changing f named live => exact wf.put live _

section Calls

variable {inv : Invoker} {site : CallSite} {receiver : Option Handle} {args : List HostValue}
  {heap after : Heap C} {result : HostValue}

theorem Invoker.panicked_ne_ok {p : Payload} :
    (inv.panicked site p heap).outcome ≠ .ok result := by
  unfold panicked
  cases inv.catchPanics <;> simp

/-- A call concludes with the value that the host gets for the function's result. -/
theorem Invoker.conclude_eq_ok {t : NativeType C} {outcome : Outcome String t.Value}
    (ok : (inv.conclude site t outcome heap).outcome = .ok result) :
    ∃ v, t.toHost v heap = .ok (result, (inv.conclude site t outcome heap).heap) := by
  cases outcome with
  | error reason => cases ok
  | panic p => exact absurd ok panicked_ne_ok
  | ok v =>
    cases handed : t.toHost v heap with
    | error e =>
      simp only [conclude, handed] at ok
      cases ok
    | ok p =>
      simp only [conclude, handed] at ok ⊢
      cases ok
      exact ⟨v, handed⟩

/-- A call that succeeds has converted its arguments and applied the function, and has handed over what
that returned. -/
theorem Callable.Behaves.ran_of_ok {r : Invoker.Effect C HostValue}
    (rule : c.Behaves inv site receiver args heap r) (ok : r.outcome = .ok result) :
    ∃ values outcome between v, Converts inv.policy heap c.params args values ∧
      c.body.Applies heap receiver values outcome between ∧
        c.returns.toHost v between = .ok (result, r.heap) := by
  cases rule with
  | arity | staleArgument | wrongArgument | noReceiver | staleReceiver | wrongReceiver => cases ok
  | argumentPanic | receiverPanic => exact absurd ok Invoker.panicked_ne_ok
  | @ran values outcome between converts applies =>
    obtain ⟨v, handed⟩ := Invoker.conclude_eq_ok ok
    exact ⟨values, outcome, between, v, converts, applies, handed⟩

/-- The result of a call that succeeds is of the kind of its type. -/
theorem Callable.Behaves.of_ok {r : Invoker.Effect C HostValue}
    (rule : c.Behaves inv site receiver args heap r) (ok : r.outcome = .ok result)
    (wf : heap.WellFormed) :
    (∃ values, Converts inv.policy heap c.params args values) ∧ c.returns.Presents r.heap result := by
  obtain ⟨values, outcome, between, v, converts, applies, handed⟩ := rule.ran_of_ok ok
  exact ⟨⟨values, converts⟩, NativeType.presents_of_toHost (applies.wellFormed wf) handed⟩

/-- A call that succeeds keeps to the declaration. -/
theorem Callable.Declares.honours (declares : c.Declares params returns native)
    (declared : site.params = params) (wf : heap.WellFormed)
    (ok : (inv.invoke native site receiver args heap).outcome = .ok result) :
    c.Honours params returns inv.policy args heap result
      (inv.invoke native site receiver args heap).heap := by
  obtain ⟨rfl, rfl, wraps⟩ := declares.signature
  have rule := (inv.invoke_eq_iff wraps native.identity declared receiver args heap _).1 rfl
  obtain ⟨⟨values, converts⟩, presents⟩ := rule.of_ok ok wf
  refine ⟨?_, ?_, rfl, presents⟩
  · rw [converts.length_eq, paramMetas, List.length_map]
  · intro i d v param arg
    rw [paramMetas, List.getElem?_map, Option.map_eq_some_iff] at param
    obtain ⟨p, param, rfl⟩ := param
    obtain ⟨a, accepted⟩ := converts.of_getElem? param arg
    exact ⟨p, param, rfl, NativeType.takes_of_fromHost accepted⟩

end Calls

/-- Signatures are honoured. In every heap, what the host gets for a value is of the kind of its type
: for an object, a handle with the identity of its name to a live instance of that name. What is
accepted from the host is of the kind, too, for an object type a handle to a live instance of the
type, or it is an integer that is widened to a float. Options let `none` through in both directions.
So a call of a generated wrapper that succeeds keeps to what its descriptor declares. -/
theorem signature_honoured (heap : Heap C) (reachable : heap.Reachable) :
    (∀ (t : NativeType C) (v : t.Value) (x : HostValue) (heap' : Heap C),
      t.toHost v heap = .ok (x, heap') → t.Presents heap' x) ∧
    (∀ (t : NativeType C) (policy : NumericPolicy) (x : HostValue) (v : t.Value),
      t.fromHost policy heap x = .ok v → t.Takes policy heap x) ∧
    ∀ (c : Callable C) (params : List Param) (returns : Kind) (native : NativeFn C),
      c.Declares params returns native → ∀ (inv : Invoker) (site : CallSite), site.params = params →
        ∀ (receiver : Option Handle) (args : List HostValue) (result : HostValue),
          (inv.invoke native site receiver args heap).outcome = .ok result →
            c.Honours params returns inv.policy args heap result
              (inv.invoke native site receiver args heap).heap := by
  have wf := reachable.wellFormed
  refine ⟨fun t v x heap' handed => ?_, fun t policy x v accepted => ?_, ?_⟩
  · exact NativeType.presents_of_toHost wf handed
  · exact NativeType.takes_of_fromHost accepted
  · intro c params returns native declares inv site declared receiver args result ok
    exact declares.honours declared wf ok

open Gallery in
/-- A function that returns its first argument gets a point by a handle of a foreign identity, and an
integer for a float, both in options. The host gets a handle of the right identity. -/
theorem signature_honoured_optional :
    let same : Callable catalog :=
      free [⟨"p", .option (.object .point)⟩, ⟨"w", .option .f64⟩] (.option (.object .point))
        fun (p, _, ()) => .ok p
    let f : FunctionMeta catalog := same.toFunction "same"
    let point : Occupant catalog := ⟨.point, ⟨.ofBits 0, .ofBits 0⟩, 1, false⟩
    let heap : Heap catalog := ⟨#[⟨0, some point⟩], [], 1⟩
    let args : List HostValue := [.object ⟨0, 0, .empty⟩, .int (.wrap .i64 3)]
    let result : HostValue := .object ⟨1, 0, catalog.identity .point⟩
    let r := Invoker.invoke ⟨.widening, true⟩ f.native (.function "same" f.params) none args heap
    heap.Reachable ∧ same.Declares f.params f.returns f.native ∧ f.returns = .object "Point" ∧
      r.outcome = .ok result ∧
        same.Honours f.params f.returns .widening args heap result r.heap := by
  intro same f point heap args result r
  have allocate : Heap.allocate (C := catalog) .point ⟨.ofBits 0, .ofBits 0⟩ .empty =
      .ok (⟨0, 0, catalog.identity .point⟩, heap) := rfl
  have reachable : heap.Reachable := ⟨_, .allocate (.refl .empty) allocate⟩
  have declares : same.Declares f.params f.returns f.native := .function same "same"
  have ok : r.outcome = .ok result := rfl
  have calls := (signature_honoured heap reachable).2.2
  exact ⟨reachable, declares, rfl, ok, calls same _ _ _ declares _ _ rfl none args result ok⟩

end NativeBridge
