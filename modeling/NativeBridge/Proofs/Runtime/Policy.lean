import NativeBridge.Proofs.Native.Policy
import NativeBridge.Proofs.Runtime.Census
import NativeBridge.Proofs.Wrapper.Signatures

/-!
# Runtimes under different policies for numbers

Under `NumericPolicy.widening` a runtime accepts integers where floats are wanted, and under `strict`
it does not. `Runtime.policies_agree` : in a registry with prompt native code, a run whose operations
all succeed under `strict` goes the same way under `widening`, step by step. And from one heap, an
operation can differ between the two only if in its call an integer meets a float
(`Runtime.MeetsFloat`).

Which call an operation comes to does not depend on the policy, and besides the call nothing of an
operation does (`Runtime.perform_under`). Generated bindings have prompt native code
(`Registry.Generated.prompt`), and in a registry of these the float is one that the signature of the
call declares.
-/

namespace NativeBridge

variable {C : Catalog}

/-! ## Prompt registries -/

/-- The native callables of a class. -/
def ClassEntry.natives (e : ClassEntry C) : List (NativeFn C) :=
  e.fields.flatMap (fun f => f.getter :: f.setter.toList) ++ e.methods.map MethodMeta.native ++
    (e.constructor.map ConstructorMeta.native).toList

namespace Registry

/-- The native callables of a registry. -/
def natives (r : Registry C) : List (NativeFn C) :=
  r.functions.map FunctionMeta.native ++ r.classes.flatMap ClassEntry.natives

/-- All native code of the registry is prompt. -/
def Prompt (r : Registry C) : Prop := ∀ n ∈ r.natives, n.code.Prompt

end Registry

namespace ClassEntry

variable {e : ClassEntry C}

theorem mem_natives {n : NativeFn C} :
    n ∈ e.natives ↔
      (∃ f ∈ e.fields, n = f.getter ∨ f.setter = some n) ∨ (∃ m ∈ e.methods, m.native = n) ∨
        ∃ c, e.constructor = some c ∧ c.native = n := by
  simp [natives]

/-- Generated native code does not go on after a request that has failed, nor does it look at the
outline of its frame. -/
theorem Generated.prompt (generated : e.Generated) : ∀ n ∈ e.natives, n.code.Prompt := by
  intro n mem
  rcases mem_natives.1 mem with ⟨f, field, which⟩ | ⟨m, method, rfl⟩ | ⟨c, present, rfl⟩
  · obtain ⟨o, p, -, rfl⟩ := generated.field field
    rcases which with rfl | writable
    · exact p.prompt_getter
    · obtain ⟨set, code⟩ := Property.setter_of_toField writable
      rw [code]
      exact p.prompt_setter set
  · obtain ⟨o, name, c, -, -, rfl⟩ := generated.method method
    exact c.prompt_code
  · obtain ⟨o, c, -, -, rfl⟩ := generated.constructor present
    exact c.prompt_code

end ClassEntry

/-- Generated bindings are prompt. -/
theorem Registry.Generated.prompt {r : Registry C} (generated : r.Generated) : r.Prompt := by
  intro n mem
  rcases List.mem_append.1 mem with mem | mem
  · obtain ⟨f, function, rfl⟩ := List.mem_map.1 mem
    obtain ⟨name, c, -, rfl⟩ := generated.functions f function
    exact c.prompt_code
  · obtain ⟨e, entry, mem⟩ := List.mem_flatMap.1 mem
    exact (generated.classes e entry).prompt n mem

namespace Runtime

/-- The same runtime with another policy. -/
def under (rt : Runtime C) (policy : NumericPolicy) : Runtime C :=
  { rt with config := { rt.config with policy } }

end Runtime

/-- The same step, with the runtime after it under another policy. -/
def Step.under (step : Step C) (policy : NumericPolicy) : Step C :=
  { step with runtime := step.runtime.under policy }

namespace Runtime

variable {rt : Runtime C} {op : Operation} {d : Dispatch C} {p q : NumericPolicy}

/-- The callable that is called is one of the registry. -/
theorem Dispatches.native_mem (dispatches : rt.Dispatches op d) : d.native ∈ rt.registry.natives := by
  have of_entry {e : ClassEntry C} {n : NativeFn C} (entry : e ∈ rt.registry.classes)
      (native : n ∈ e.natives) : n ∈ rt.registry.natives :=
    List.mem_append_right _ (List.mem_flatMap.2 ⟨e, entry, native⟩)
  cases dispatches with
  | call function =>
    exact List.mem_append_left _ (List.mem_map_of_mem (Registry.mem_of_function function))
  | construct entry present | constructWith entry present =>
    exact of_entry (Registry.mem_of_classNamed entry)
      (ClassEntry.mem_natives.2 (Or.inr (Or.inr ⟨_, present, rfl⟩)))
  | getField entry field =>
    exact of_entry (mem_of_classFor entry)
      (ClassEntry.mem_natives.2 (Or.inl ⟨_, ClassEntry.mem_of_field field, Or.inl rfl⟩))
  | setField entry field writable =>
    exact of_entry (mem_of_classFor entry)
      (ClassEntry.mem_natives.2 (Or.inl ⟨_, ClassEntry.mem_of_field field, Or.inr writable⟩))
  | callMethod entry method =>
    exact of_entry (mem_of_classFor entry)
      (ClassEntry.mem_natives.2 (Or.inr (Or.inl ⟨_, ClassEntry.mem_of_method method, rfl⟩)))

/-! ## One operation -/

section Effects

@[simp] theorem registry_under : (rt.under p).registry = rt.registry := rfl

@[simp] theorem classFor_under {h : Handle} : (rt.under p).classFor h = rt.classFor h := rfl

/-- The call that the operation comes to has the same effect under both policies. -/
def Indifferent (rt : Runtime C) (p q : NumericPolicy) (op : Operation) : Prop :=
  ∀ d, rt.Dispatches op d → d.effect (rt.under p) = d.effect (rt.under q)

variable {name : String} {args : List HostValue}

/-- Functions that are indifferent to the policy are called alike. -/
theorem call_under (same : rt.Indifferent p q (.call name args)) :
    (rt.under p).call name args = (rt.under q).call name args := by
  simp only [call, registry_under]
  cases function : rt.registry.function name with
  | error e => rfl
  | ok f => exact same _ (.call function)

theorem construct_under (same : rt.Indifferent p q (.construct name args)) :
    (rt.under p).construct name args = (rt.under q).construct name args := by
  simp only [construct, registry_under]
  cases entry : rt.registry.classNamed name with
  | error e => rfl
  | ok e =>
    simp only [runConstructor]
    cases present : e.constructor with
    | none => rfl
    | some c => exact congrArg (checkConstructed e) (same _ (.construct entry present))

theorem constructWith_under {keywords : List (String × HostValue)}
    (same : rt.Indifferent p q (.constructWith name args keywords)) :
    (rt.under p).constructWith name args keywords = (rt.under q).constructWith name args keywords := by
  simp only [constructWith, registry_under]
  cases entry : rt.registry.classNamed name with
  | error e => rfl
  | ok e =>
    simp only [runConstructor]
    cases present : e.constructor with
    | none => rfl
    | some c =>
      cases binding : bindKeywords e.name c.params args keywords with
      | error cause => simp only [binding]; rfl
      | ok bound =>
        simp only [binding]
        exact congrArg (checkConstructed e) (same _ (.constructWith entry present binding))

theorem getField_under {h : Handle} (same : rt.Indifferent p q (.getField h name)) :
    (rt.under p).getField h name = (rt.under q).getField h name := by
  simp only [getField, classFor_under]
  cases entry : rt.classFor h with
  | error e => rfl
  | ok e =>
    cases field : e.field name with
    | error cause => simp only [field]; rfl
    | ok f =>
      simp only [field]
      exact same _ (.getField entry field)

theorem setField_under {h : Handle} {v : HostValue} (same : rt.Indifferent p q (.setField h name v)) :
    (rt.under p).setField h name v = (rt.under q).setField h name v := by
  simp only [setField, classFor_under]
  cases entry : rt.classFor h with
  | error e => rfl
  | ok e =>
    cases field : e.field name with
    | error cause => simp only [field]; rfl
    | ok f =>
      cases writable : f.setter with
      | none => simp only [field, writable]; rfl
      | some setter =>
        simp only [field, writable]
        have effect := same _ (.setField entry field writable)
        simp only [Dispatch.effect] at effect
        rw [effect]

theorem callMethod_under {h : Handle} (same : rt.Indifferent p q (.callMethod h name args)) :
    (rt.under p).callMethod h name args = (rt.under q).callMethod h name args := by
  simp only [callMethod, classFor_under]
  cases entry : rt.classFor h with
  | error e => rfl
  | ok e =>
    cases method : e.method name with
    | error cause => simp only [method]; rfl
    | ok m =>
      simp only [method]
      exact same _ (.callMethod entry method)

theorem finish_under {α : Type} (r : Invoker.Effect C α) (answer : α → Response) :
    (rt.under p).finish r answer = ((rt.under q).finish r answer).under p := rfl

/-- Nothing but the call of an operation depends on the policy. -/
theorem perform_under (same : rt.Indifferent p q op) :
    (rt.under p).perform op = ((rt.under q).perform op).under p := by
  cases op with
  | call name args => rw [perform, perform, call_under same, ← finish_under]
  | construct typeName args => rw [perform, perform, construct_under same, ← finish_under]
  | constructWith typeName args keywords =>
    rw [perform, perform, constructWith_under same, ← finish_under]
  | getField h name => rw [perform, perform, getField_under same, ← finish_under]
  | setField h name v => rw [perform, perform, setField_under same, ← finish_under]
  | callMethod h name args => rw [perform, perform, callMethod_under same, ← finish_under]
  | release | share | copy | typeOf | state | holders => rfl

end Effects

/-! ## Where the policies part -/

/-- In the call that the operation comes to, an integer is asked for as a float. -/
def MeetsFloat (rt : Runtime C) (op : Operation) : Prop :=
  ∃ d, rt.Dispatches op d ∧ ∃ e ∈ d.transcript rt, e.request.Meets d.args

/-- What an operation calls does not depend on the policy. -/
theorem dispatches_under : (rt.under p).Dispatches op d ↔ rt.Dispatches op d := by
  rw [← dispatch?_eq_some_iff, ← dispatch?_eq_some_iff]
  cases op <;> exact Iff.rfl

/-- A call is the same under both policies if no integer meets a float. -/
theorem effect_under
    (apart : ∀ e ∈ d.transcript (rt.under q), e.request ≠ .outline ∧ ¬e.request.Meets d.args) :
    d.effect (rt.under p) = d.effect (rt.under q) := by
  refine Invoker.invoke_congr rfl fun arity => ?_
  rw [Dispatch.transcript, Invoker.transcript, if_pos arity] at apart
  exact Native.run_congr p q d.native.code _ apart

/-- An operation that differs between two policies meets a float. -/
theorem meetsFloat_of_ne (prompt : rt.registry.Prompt)
    (differs : (rt.under p).perform op ≠ ((rt.under q).perform op).under p) :
    (rt.under q).MeetsFloat op := by
  by_contra apart
  refine differs (perform_under fun d dispatches => effect_under fun e he => ⟨?_, fun meets => ?_⟩)
  · unfold Dispatch.transcript Invoker.transcript at he
    split_ifs at he
    · exact (prompt _ dispatches.native_mem).blind _ _ e he
    · cases he
  · exact apart ⟨d, dispatches_under.2 dispatches, e, he, meets⟩

/-- Under `strict` an operation that meets a float does not succeed. -/
theorem MeetsFloat.ne_ok (meets : rt.MeetsFloat op) (prompt : rt.registry.Prompt)
    (strict : rt.config.policy = .strict) (x : Response) : (rt.perform op).outcome ≠ .ok x := by
  intro ok
  obtain ⟨d, dispatches, e, he, meets⟩ := meets
  obtain ⟨v, ended⟩ := dispatches.exists_ok ok
  obtain ⟨arity, ended, -⟩ := (Invoker.invoke_eq_ok_iff ..).1 ended
  rw [Dispatch.transcript, Invoker.transcript, if_pos arity] at he
  refine (prompt _ dispatches.native_mem).stops _ _ _ _ (Prod.ext ended rfl) e he ?_
  obtain ⟨r, s, rfl⟩ := Native.exists_of_mem_transcript he
  exact Request.perform_of_meets strict meets s

/-! ## Declared floats -/

/-- The call that the operation comes to has an integer in the place of a parameter, or of a field,
that is declared to be a float. -/
def MeetsDeclaredFloat (rt : Runtime C) (op : Operation) : Prop :=
  ∃ (d : Dispatch C) (i : Nat) (n : HostInt) (param : Param), rt.Dispatches op d ∧
    d.args[i]? = some (.int n) ∧ d.site.params[i]? = some param ∧ param.kind = .float

/-- Wrappers ask for floats only where they are declared. -/
theorem MeetsFloat.declared (meets : (rt.under p).MeetsFloat op)
    (generated : rt.registry.Generated) : rt.MeetsDeclaredFloat op := by
  obtain ⟨d, dispatches, e, he, meets⟩ := meets
  obtain ⟨c, wraps, params, -⟩ := dispatches.wraps generated
  have declared : e.request.Declared c.params := by
    unfold Dispatch.transcript Invoker.transcript at he
    split_ifs at he
    · exact wraps.declared _ _ e he
    · cases he
  cases request : e.request with
  | arg i t =>
    rw [request] at meets declared
    obtain ⟨v, there, float, n, rfl⟩ := meets
    obtain ⟨param, place, rfl⟩ := declared
    refine ⟨d, i, n, param.meta, dispatches_under.1 dispatches, there, ?_, float⟩
    rw [params, Callable.paramMetas, List.getElem?_map, place]
    rfl
  | _ =>
    rw [request] at meets
    exact meets.elim

/-! ## Whole runs -/

@[simp] theorem under_under : (rt.under p).under q = rt.under q := rfl

theorem under_eq_self (same : rt.config.policy = p) : rt.under p = rt := by
  subst same
  rfl

/-- No operation changes the configuration. -/
theorem perform_config (rt : Runtime C) (op : Operation) :
    (rt.perform op).runtime.config = rt.config := by
  cases op <;> rfl

/-- By induction on the operations : as long as they succeed, none of them meets a float. -/
theorem steps_under (prompt : rt.registry.Prompt) (strict : rt.config.policy = .strict)
    {ops : List Operation} (succeed : ∀ step ∈ rt.steps ops, ∃ x, step.outcome = .ok x) :
    (rt.under p).steps ops = (rt.steps ops).map (·.under p) := by
  induction ops generalizing rt with
  | nil => rfl
  | cons op ops ih =>
    obtain ⟨⟨x, ok⟩, later⟩ := List.forall_mem_cons.1 succeed
    have first : (rt.under p).perform op = (rt.perform op).under p := by
      by_contra differs
      rw [← under_eq_self strict, under_under] at differs
      have meets := meetsFloat_of_ne prompt differs
      rw [under_eq_self strict] at meets
      exact meets.ne_ok prompt strict x ok
    have prompt' : (rt.perform op).runtime.registry.Prompt := by
      rw [perform_registry]
      exact prompt
    have strict' := (congrArg Config.policy (rt.perform_config op)).trans strict
    rw [steps, steps, List.map_cons, first, ← ih prompt' strict' later]
    rfl

/-- A run whose operations all succeed under `strict` is the same under `widening`, with the same
outcomes, notes and heaps at every step. From one heap, an operation can differ between the two only
if in its call an integer meets a float, and with generated bindings that is declared. -/
theorem policies_agree (rt : Runtime C) (prompt : rt.registry.Prompt) :
    (∀ ops, (∀ step ∈ (rt.under .strict).steps ops, ∃ x, step.outcome = .ok x) →
      (rt.under .widening).steps ops =
        ((rt.under .strict).steps ops).map (·.under .widening)) ∧
    ∀ op, (rt.under .widening).perform op ≠ ((rt.under .strict).perform op).under .widening →
      (rt.under .strict).MeetsFloat op ∧ (rt.registry.Generated → rt.MeetsDeclaredFloat op) := by
  refine ⟨fun ops succeed => ?_, fun op differs => ?_⟩
  · have prompt' : (rt.under .strict).registry.Prompt := prompt
    exact steps_under prompt' rfl succeed
  · have meets := meetsFloat_of_ne prompt differs
    exact ⟨meets, meets.declared⟩

open Gallery in
/-- A function takes a float, if any, and returns it. A float it gets under both policies, an integer
under `widening` only. -/
theorem policies_agree_optional :
    let same : Callable catalog :=
      free [⟨"x", .option .f64⟩] (.option .f64) fun (x, ()) => .ok x
    let registry := (Registry.empty "floats").pushFunction (same.toFunction "same") rfl
    let rt : Runtime catalog := ⟨registry, {}, .empty⟩
    let ops : List Operation := [.call "same" [.float (.ofBits 0)], .call "same" [.none]]
    let widened : Operation := .call "same" [.int (.wrap .i64 3)]
    rt.registry.Prompt ∧ (∀ step ∈ (rt.under .strict).steps ops, ∃ x, step.outcome = .ok x) ∧
      (rt.under .widening).steps ops = ((rt.under .strict).steps ops).map (·.under .widening) ∧
      (rt.under .strict).MeetsFloat widened ∧ rt.MeetsDeclaredFloat widened := by
  intro same registry rt ops widened
  have generated : rt.registry.Generated :=
    ⟨List.forall_mem_singleton.2 ⟨"same", same, trivial, rfl⟩, nofun⟩
  have succeed : ∀ step ∈ (rt.under .strict).steps ops, ∃ x, step.outcome = .ok x :=
    List.forall_mem_cons.2 ⟨⟨_, rfl⟩, List.forall_mem_singleton.2 ⟨_, rfl⟩⟩
  have differs : (rt.under .widening).perform widened ≠
      ((rt.under .strict).perform widened).under .widening := by
    intro agree
    have succeeds : true = false := congrArg (fun step => step.outcome.value?.isSome) agree
    cases succeeds
  obtain ⟨runs, parts⟩ := policies_agree rt generated.prompt
  obtain ⟨meets, declared⟩ := parts widened differs
  exact ⟨generated.prompt, succeed, runs ops succeed, meets, declared generated⟩

end Runtime

end NativeBridge
