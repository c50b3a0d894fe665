import NativeBridge.Proofs.Native.Overwriting
import NativeBridge.Proofs.Runtime.Policy
import NativeBridge.Proofs.Runtime.StaleHandles
import NativeBridge.Proofs.Wrapper.Receivers
import NativeBridge.Proofs.Wrapper.Records

/-!
# Accesses to an instance

Fields of an instance of a derived class are read and written through a handle. Reading hands out
what the field holds (`Runtime.perform_getField`). Writing overwrites the instance, or is refused,
and which of the two, and the native value that is written, do not depend on what the instance holds
(`Runtime.writes_or_refuses`, `Runtime.exists_writes_or_refuses`).

Whoever uses another instance (`Operation.Uses`) does not notice that one is overwritten
(`Runtime.perform_put_of_ne`) : native code sees its receiver and its arguments only.
-/

namespace NativeBridge

variable {C : Catalog}

/-- The operation reads a field of the instance behind the handle, writes one, or calls a method,
and gives these values. -/
inductive Operation.Uses : Operation → Handle → List HostValue → Prop
  | getField {h : Handle} (name : String) : Uses (.getField h name) h []
  | setField {h : Handle} (name : String) (v : HostValue) : Uses (.setField h name v) h [v]
  | callMethod {h : Handle} (name : String) (args : List HostValue) :
      Uses (.callMethod h name args) h args

theorem Operation.Uses.target {op : Operation} {h : Handle} {args : List HostValue}
    (uses : op.Uses h args) : op.target? = some h := by
  cases uses <;> rfl

/-- A call with a receiver is an operation on its handle. -/
theorem Runtime.Dispatches.uses {rt : Runtime C} {op : Operation} {d : Dispatch C} {h : Handle}
    (dispatches : rt.Dispatches op d) (named : d.receiver = some h) : op.Uses h d.args := by
  cases dispatches with
  | call | construct | constructWith => cases named
  | getField =>
    cases named
    exact .getField _
  | setField =>
    cases named
    exact .setField _ _
  | callMethod =>
    cases named
    exact .callMethod _ _

/-! ## Runtimes with an overwritten instance -/

/-- The runtime with another instance in the slot of a handle. -/
def Runtime.put (rt : Runtime C) (h : Handle) (y : Occupant C) : Runtime C :=
  { rt with heap := rt.heap.put h y }

/-- The step to a runtime with another instance in the slot of a handle. -/
def Step.put (step : Step C) (h : Handle) (y : Occupant C) : Step C :=
  { step with runtime := step.runtime.put h y }

namespace Runtime

variable {rt : Runtime C} {h k : Handle} {x y : Occupant C}

/-- A use is refused, or answers what its call answers. -/
theorem uses_cases (rt : Runtime C) {op : Operation} {args : List HostValue} (uses : op.Uses h args) :
    rt.Refused op ∨ ∃ answer, rt.Relayed op answer := by
  cases uses with
  | getField name => exact (rt.getField_cases h name).imp_right fun relayed => ⟨_, relayed⟩
  | setField name v => exact (rt.setField_cases h name v).imp_right fun relayed => ⟨_, relayed⟩
  | callMethod name args =>
    exact (rt.callMethod_cases h name args).imp_right fun relayed => ⟨_, relayed⟩

theorem put_self (live : rt.heap.occupant? h = some x) : rt.put h x = rt := by
  rw [put, Heap.put_self live]

theorem put_put (rt : Runtime C) (h : Handle) (x y : Occupant C) :
    (rt.put h x).put h y = rt.put h y := by
  rw [put, put, put, Heap.put_put]

theorem occupant?_put (live : rt.heap.occupant? h = some x) (y : Occupant C) :
    (rt.put h y).heap.occupant? h = some y :=
  (Heap.occupant?_put live y h).trans (if_pos rfl)

/-- Handles to other instances find their class as before. -/
theorem classFor_put_of_ne (live : rt.heap.occupant? h = some x) (y : Occupant C)
    (other : k.tenancy ≠ h.tenancy) : (rt.put h y).classFor k = rt.classFor k := by
  have view : (rt.put h y).heap.occupant? k = rt.heap.occupant? k :=
    (Heap.occupant?_put live y k).trans (if_neg other)
  rw [classFor, classFor, view]
  rfl

/-- Whoever uses another instance does not notice, unless it gives the one that is overwritten. -/
theorem perform_put_of_ne {op : Operation} {args : List HostValue} (wf : rt.heap.WellFormed)
    (live : rt.heap.occupant? h = some x) (y : Occupant C) (uses : op.Uses k args)
    (other : k.tenancy ≠ h.tenancy) (apart : ∀ j, .object j ∈ args → j.tenancy ≠ h.tenancy) :
    (rt.put h y).perform op = (rt.perform op).put h y := by
  have found := classFor_put_of_ne live y other
  have beside : Frame.Beside ⟨args, some k, rt.invoker.policy⟩ h := by
    refine ⟨apart, ?_⟩
    rintro r ⟨⟩
    exact other
  have invoked : ∀ native site, (rt.put h y).invoker.invoke native site (some k) args
      (rt.put h y).heap = _ := fun native site => rt.invoker.invoke_put native site wf live y beside
  cases uses with
  | getField name =>
    rw [perform, perform, getField, getField, found]
    cases rt.classFor k with
    | error cause => rfl
    | ok e =>
      dsimp only
      cases e.field name with
      | error cause => rfl
      | ok f =>
        dsimp only
        rw [invoked]
        rfl
  | setField name v =>
    rw [perform, perform, setField, setField, found]
    cases rt.classFor k with
    | error cause => rfl
    | ok e =>
      dsimp only
      cases e.field name with
      | error cause => rfl
      | ok f =>
        dsimp only
        cases f.setter with
        | none => rfl
        | some setter =>
          dsimp only
          rw [invoked]
          rfl
  | callMethod name args =>
    rw [perform, perform, callMethod, callMethod, found]
    cases rt.classFor k with
    | error cause => rfl
    | ok e =>
      dsimp only
      cases e.method name with
      | error cause => rfl
      | ok m =>
        dsimp only
        rw [invoked]
        rfl

end Runtime

/-! ## One access -/

namespace Runtime

section Access

variable {rt : Runtime C} {h : Handle} {e : ClassEntry C} {o : C.Obj} {ps : List (Property C o)}
  {p q : Property C o} {s : C.Instance o} {n : Nat} {m : Bool} {v : HostValue}

/-- The class of a live instance is the one of the handle's identity. -/
theorem classFor_of_live {x : Occupant C} (entry : rt.registry.classOf? h.identity = some e)
    (live : rt.heap.occupant? h = some x) : rt.classFor h = .ok e := by
  rw [classFor, live]
  simp only [entry]

/-- Reading hands out what the field holds. -/
theorem perform_getField (entry : rt.registry.classOf? h.identity = some e)
    (derived : e.Derived o ps) (mem : p ∈ ps) (live : rt.heap.occupant? h = some ⟨o, s, n, m⟩) :
    rt.perform (.getField h p.name) =
      rt.finish (rt.invoker.conclude (.field e.name p.name []) p.type (.ok (p.get s)) rt.heap)
        .value := by
  have found := Heap.get_of_live live (Occupant.as?_eq_some_iff.2 rfl)
  have copy : p.type.clone (p.get s) = .ok (p.get s) := derived.faithful p mem _
  have effect : rt.invoker.invoke p.toField.getter (.field e.name p.name []) (some h) [] rt.heap =
      rt.invoker.conclude (.field e.name p.name []) p.type
        (Property.ofCopy (p.type.clone (p.get s))) rt.heap :=
    Callable.Behaves.invoke (.getter p) rfl (.ran .nil (.reading _ rfl found))
  rw [copy] at effect
  rw [perform, getField, classFor_of_live entry live]
  simp only [derived.field mem]
  exact congrArg (rt.finish · .value) effect

section Write

variable {set : p.type.Value → C.Instance o → C.Instance o}

/-- A write to a field with a setter calls the setter, with the value as its only argument. -/
theorem perform_setField (entry : rt.registry.classOf? h.identity = some e)
    (derived : e.Derived o ps) (mem : p ∈ ps) (writes : p.set = some set) {x : Occupant C}
    (live : rt.heap.occupant? h = some x) (v : HostValue) :
    rt.perform (.setField h p.name v) =
      rt.finish (rt.invoker.invoke ⟨.ofSetter (C.identity o) p.name, p.setter set⟩
        (.field e.name p.name [⟨p.name, p.type.kind⟩]) (some h) [v] rt.heap) fun _ => .done := by
  have setter : p.toField.setter = some ⟨.ofSetter (C.identity o) p.name, p.setter set⟩ := by
    rw [Property.toField, writes]
    rfl
  rw [perform, setField, classFor_of_live entry live]
  simp only [derived.field mem, setter]
  exact rt.finish_bind_done _

theorem perform_setField_of_readOnly (entry : rt.registry.classOf? h.identity = some e)
    (derived : e.Derived o ps) (mem : p ∈ ps) (readOnly : p.set = none) {x : Occupant C}
    (live : rt.heap.occupant? h = some x) (v : HostValue) :
    rt.perform (.setField h p.name v) = rt.answer (.error (.readOnlyField e.name p.name)) := by
  have setter : p.toField.setter = none := by
    rw [Property.toField, readOnly]
    rfl
  rw [perform, setField, classFor_of_live entry live]
  simp only [derived.field mem, setter]
  rfl

/-- A value that converts is stored in the field, and the instance counts as mutated. -/
theorem perform_setField_of_ok (entry : rt.registry.classOf? h.identity = some e)
    (derived : e.Derived o ps) (mem : p ∈ ps) (writes : p.set = some set)
    (live : rt.heap.occupant? h = some ⟨o, s, n, m⟩) {a : p.type.Value}
    (accepted : p.type.fromHost rt.config.policy rt.heap v = .ok a) :
    rt.perform (.setField h p.name v) = ⟨.ok .done, rt.put h ⟨o, set a s, n, true⟩, []⟩ := by
  have applies : (p.writer set).body.Applies rt.heap (some h) (a, ()) (.ok ())
      (rt.heap.put h ⟨o, set a s, n, true⟩) := .changing _ rfl live
  have rule : (p.writer set).Behaves rt.invoker (.field e.name p.name [⟨p.name, p.type.kind⟩])
      (some h) [v] rt.heap (rt.invoker.conclude _ .unit (.ok ()) _) :=
    .ran (.cons accepted .nil) applies
  rw [perform_setField entry derived mem writes live, rule.invoke (.setter p set) rfl]
  rfl

/-- A value that does not convert leaves all as it was. -/
theorem perform_setField_of_error (entry : rt.registry.classOf? h.identity = some e)
    (derived : e.Derived o ps) (mem : p ∈ ps) (writes : p.set = some set) {x : Occupant C}
    (live : rt.heap.occupant? h = some x) {cause : ConversionError}
    (refused : p.type.fromHost rt.config.policy rt.heap v = .error cause) :
    rt.perform (.setField h p.name v) =
      rt.answer (.error ((CallSite.field e.name p.name [⟨p.name, p.type.kind⟩]).report
        (.argument 0 cause))) := by
  have ran : (p.setter set).run ⟨[v], some h, rt.invoker.policy⟩ { heap := rt.heap } =
      (.error (.argument 0 cause), { heap := rt.heap }) :=
    Callable.Wraps.run_of_error (.setter p set) (.zero rfl) refused
  rw [perform_setField entry derived mem writes live, Invoker.invoke_of_error rfl ran]
  rfl

/-- A setter changes live instances of its own type only. -/
theorem live_of_setter {inv : Invoker} {site : CallSite} {identity : Identity} {heap : Heap C}
    {result : HostValue} (declared : site.params = [⟨p.name, p.type.kind⟩])
    (ok : (inv.invoke ⟨identity, p.setter set⟩ site (some h) [v] heap).outcome = .ok result) :
    ∃ s n m, heap.occupant? h = some ⟨o, s, n, m⟩ := by
  have rule := (inv.invoke_eq_iff (.setter p set) identity declared (some h) [v] heap _).1 rfl
  obtain ⟨k, named, ⟨type, s, n, m⟩, live, rfl⟩ := rule.houses ok rfl
  cases named
  exact ⟨s, n, m, live⟩

/-- A write that succeeds was to a live instance of the type. -/
theorem live_of_setField (entry : rt.registry.classOf? h.identity = some e)
    (derived : e.Derived o ps) (mem : p ∈ ps)
    (done : (rt.perform (.setField h p.name v)).outcome = .ok .done) :
    ∃ s n m, rt.heap.occupant? h = some ⟨o, s, n, m⟩ := by
  cases there : rt.heap.occupant? h with
  | none =>
    rw [(refuses_of_stale there).perform _ rfl] at done
    cases done
  | some x =>
    cases writes : p.set with
    | none =>
      rw [perform_setField_of_readOnly entry derived mem writes there] at done
      cases done
    | some set =>
      rw [perform_setField entry derived mem writes there] at done
      obtain ⟨result, ok, -⟩ := exists_ok_of_finish done
      exact there ▸ live_of_setter rfl ok

end Write

/-! ## Writes do not look at the instance -/

/-- The write is refused, whatever the instance holds. -/
def RefusesWrite (rt : Runtime C) (o : C.Obj) (h : Handle) (name : String) (v : HostValue) : Prop :=
  ∃ cause, ∀ y : Occupant C, y.type = o →
    (rt.put h y).perform (.setField h name v) = (rt.put h y).answer (.error cause)

/-- The native value is written, whatever the instance holds. -/
def Writes (rt : Runtime C) (h : Handle) (p : Property C o) (v : HostValue) (a : p.type.Value)
    (set : p.type.Value → C.Instance o → C.Instance o) : Prop :=
  ∀ s n m, (rt.put h ⟨o, s, n, m⟩).perform (.setField h p.name v) =
    ⟨.ok .done, rt.put h ⟨o, set a s, n, true⟩, []⟩

theorem Writes.perform {a : p.type.Value} {set : p.type.Value → C.Instance o → C.Instance o}
    (written : rt.Writes h p v a set) (live : rt.heap.occupant? h = some ⟨o, s, n, m⟩) :
    rt.perform (.setField h p.name v) = ⟨.ok .done, rt.put h ⟨o, set a s, n, true⟩, []⟩ := by
  have step := written s n m
  rwa [put_self live] at step

/-- A write that is refused is refused for one reason, whatever the instance holds. -/
theorem RefusesWrite.perform {name : String} {x : Occupant C} (refuses : rt.RefusesWrite o h name v)
    (live : rt.heap.occupant? h = some x) (type : x.type = o) :
    ∃ cause, rt.perform (.setField h name v) = rt.answer (.error cause) ∧
      ∀ y : Occupant C, y.type = o →
        (rt.put h y).perform (.setField h name v) = (rt.put h y).answer (.error cause) := by
  obtain ⟨cause, refused⟩ := refuses
  have step := refused x type
  rw [put_self live] at step
  exact ⟨cause, step, refused⟩

/-- A write to a field goes through or is refused, whatever the instance holds. -/
theorem writes_or_refuses (entry : rt.registry.classOf? h.identity = some e)
    (derived : e.Derived o ps) (mem : p ∈ ps) {x : Occupant C}
    (live : rt.heap.occupant? h = some x) (type : x.type = o) (v : HostValue) :
    rt.RefusesWrite o h p.name v ∨
      ∃ set a, p.set = some set ∧ p.type.fromHost rt.config.policy rt.heap v = .ok a ∧
        rt.Writes h p v a set := by
  have same : ∀ y : Occupant C, y.type = o →
      p.type.fromHost rt.config.policy (rt.put h y).heap v =
        p.type.fromHost rt.config.policy rt.heap v := fun y kept =>
    NativeType.fromHost_put live (kept.trans type.symm) (type ▸ derived.finite p mem) _ v
  have entry' : ∀ y, (rt.put h y).registry.classOf? h.identity = some e := fun _ => entry
  cases writes : p.set with
  | none =>
    refine Or.inl ⟨.readOnlyField e.name p.name, fun y kept => ?_⟩
    exact perform_setField_of_readOnly (entry' y) derived mem writes (occupant?_put live y) v
  | some set =>
    cases converts : p.type.fromHost rt.config.policy rt.heap v with
    | panic q =>
      exact absurd converts (NativeType.fromHost_ne_panic (derived.faithful p mem) _ _ _ _)
    | error cause =>
      refine Or.inl ⟨(CallSite.field e.name p.name [⟨p.name, p.type.kind⟩]).report
        (.argument 0 cause), fun y kept => ?_⟩
      exact perform_setField_of_error (entry' y) derived mem writes (occupant?_put live y)
        ((same y kept).trans converts)
    | ok a =>
      refine Or.inr ⟨set, a, rfl, rfl, fun s n m => ?_⟩
      have written : (rt.put h ⟨o, s, n, m⟩).perform (.setField h p.name v) = _ :=
        perform_setField_of_ok (entry' _) derived mem writes (occupant?_put live _)
          ((same _ rfl).trans converts)
      rw [written, put_put]

/-- The same for any name : one that is no field is refused. -/
theorem exists_writes_or_refuses (entry : rt.registry.classOf? h.identity = some e)
    (derived : e.Derived o ps) {x : Occupant C} (live : rt.heap.occupant? h = some x)
    (type : x.type = o) (name : String) (v : HostValue) :
    rt.RefusesWrite o h name v ∨
      ∃ q ∈ ps, q.name = name ∧ ∃ set a, q.set = some set ∧ rt.Writes h q v a set := by
  cases found : e.field name with
  | error cause =>
    refine Or.inl ⟨cause, fun y kept => ?_⟩
    have found' : (rt.put h y).classFor h = .ok e := classFor_of_live entry (occupant?_put live y)
    rw [perform, setField, found']
    simp only [found]
    rfl
  | ok f =>
    obtain ⟨q, mem, rfl, -⟩ := derived.exists_of_field found
    obtain refuses | ⟨set, a, writes, -, written⟩ := writes_or_refuses entry derived mem live type v
    · exact Or.inl refuses
    · exact Or.inr ⟨q, mem, rfl, set, a, writes, written⟩

end Access

end Runtime

end NativeBridge
