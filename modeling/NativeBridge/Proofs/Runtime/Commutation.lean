import NativeBridge.Proofs.Runtime.Access

/-!
# Uses of different instances

An operation that uses an instance and issues nothing overwrites that instance, if anything
(`Runtime.put_of_uses`). What it does depends on that instance and on those given to it, for native
code sees nothing else (`Runtime.perform_put_of_ne`). So uses of two instances can change places,
unless one of them is given the instance of the other, even if both of them are given a third.

`Runtime.perform_comm` says so of arbitrary native code that never sets an object as its return
value. The wrappers of callables that do not return objects are of that sort
(`Callable.silent_code`).
-/

namespace NativeBridge

variable {C : Catalog}

/-- The code never sets an object as its return value. -/
def Native.Silent {α : Type} (m : Native C α) : Prop := m.Throughout fun e => e.issued? = none

namespace NativeType

/-- Only objects become handles. By induction on the type. -/
theorem object?_of_toHost {t : NativeType C} {v : t.Value} {heap heap' : Heap C}
    {result : HostValue} (plain : ∀ o, t.content ≠ .object o)
    (handed : t.toHost v heap = .ok (result, heap')) : result.object? = none := by
  induction t with
  | option t ih =>
    cases v with
    | none =>
      cases handed
      rfl
    | some v => exact ih plain handed
  | object o => exact absurd rfl (plain o)
  | int w =>
    unfold toHost at handed
    split at handed <;> cases handed
    rfl
  | f32 | f64 | bool | str | unit =>
    cases handed
    rfl

end NativeType

namespace Native

/-- Only the return of an object issues a handle. -/
theorem silent_setReturn {t : NativeType C} (plain : ∀ o, t.content ≠ .object o) (v : t.Value) :
    (setReturn t v).Silent := by
  refine throughout_ask transcript_demand fun f s => ?_
  cases handed : t.toHost v s.heap with
  | error e => simp [Request.exchange, Request.perform, handed, Exchange.issued?]
  | ok p =>
    simp only [Request.exchange, Request.perform, handed, Exchange.issued?]
    exact NativeType.object?_of_toHost plain handed

end Native

/-- A callable whose result is no object does not set one. -/
theorem Callable.silent_code (c : Callable C) (plain : ∀ o, c.returns.content ≠ .object o) :
    c.code.Silent :=
  (Native.wrapping_throughout fun _ _ _ => rfl).code c
    (fun i p _ => Native.throughout_arg i p.type fun _ _ => rfl) (fun o _ _ => Native.tidy_thisMut o)
    (Native.silent_setReturn plain)

namespace Runtime

variable {rt : Runtime C} {op op' : Operation} {h k : Handle} {args args' : List HostValue}

/-- The code of a method call is that of the method. -/
theorem Dispatches.silent {name : String} {d : Dispatch C} {e : ClassEntry C} {m : MethodMeta C}
    (dispatches : rt.Dispatches (.callMethod h name args) d) (entry : rt.classFor h = .ok e)
    (method : e.method name = .ok m) (silent : m.native.code.Silent) : d.native.code.Silent := by
  cases dispatches with
  | callMethod entry' method' =>
    cases entry.symm.trans entry'
    cases method.symm.trans method'
    exact silent

theorem issued_of_silent (uses : op.Uses h args)
    (silent : ∀ d, rt.Dispatches op d → d.native.code.Silent) : rt.issued op = [] := by
  cases dispatch : rt.dispatch? op with
  | none =>
    rw [issued, dispatch]
    cases uses <;> rfl
  | some d =>
    rw [issued_of_dispatch dispatch, Dispatch.transcript, Invoker.transcript]
    split
    · exact Native.issued_of_throughout (silent d (dispatch?_eq_some_iff.1 dispatch)) _ _
    · rfl

/-- A use that issues nothing overwrites its instance, if anything. -/
theorem put_of_uses (uses : op.Uses h args) (unissued : rt.issued op = []) :
    (rt.perform op).runtime = rt ∨
      ∃ x y, rt.heap.occupant? h = some x ∧ (rt.perform op).runtime = rt.put h y := by
  obtain ⟨e, -, refused⟩ | ⟨answer, d, dispatch, relayed⟩ := rt.uses_cases uses
  · rw [refused]
    exact Or.inl rfl
  · have leads := d.leads rt
    rw [issued_of_dispatch dispatch] at unissued
    have silent := List.filterMap_eq_nil_iff.1 unissued
    have after : (rt.perform op).runtime = { rt with heap := (d.effect rt).heap } := by
      rw [relayed]
      rfl
    rw [after]
    cases changes : (d.transcript rt).changes with
    | false =>
      rw [leads.eq_of_still silent changes]
      exact Or.inl rfl
    | true =>
      obtain ⟨r, x, v, named, live, heap⟩ := leads.put_of_changes silent changes
      rw [(dispatch?_eq_some_iff.1 dispatch).receiver, uses.target] at named
      cases named
      rw [heap]
      exact Or.inr ⟨x, _, live, rfl⟩

/-- The other operation leaves everything as it is that the use depends on. -/
theorem perform_after_uses (wf : rt.heap.WellFormed) (uses : op.Uses h args)
    (uses' : op'.Uses k args') (unissued : rt.issued op' = []) (other : h.tenancy ≠ k.tenancy)
    (apart : ∀ j, .object j ∈ args → j.tenancy ≠ k.tenancy) :
    ((rt.perform op').runtime.perform op).outcome = (rt.perform op).outcome ∧
      ((rt.perform op').runtime.perform op).notes = (rt.perform op).notes := by
  obtain still | ⟨x, y, live, put⟩ := put_of_uses uses' unissued
  · rw [still]
    exact ⟨rfl, rfl⟩
  · rw [put, perform_put_of_ne wf live y uses other apart]
    exact ⟨rfl, rfl⟩

/-- The runtimes after both orders are the same. -/
theorem runtime_perform_comm (wf : rt.heap.WellFormed) (uses : op.Uses h args)
    (uses' : op'.Uses k args') (unissued : rt.issued op = []) (unissued' : rt.issued op' = [])
    (other : h.tenancy ≠ k.tenancy) (apart : ∀ j, .object j ∈ args → j.tenancy ≠ k.tenancy)
    (apart' : ∀ j, .object j ∈ args' → j.tenancy ≠ h.tenancy) :
    ((rt.perform op).runtime.perform op').runtime = ((rt.perform op').runtime.perform op).runtime := by
  obtain still | ⟨x, y, live, put⟩ := put_of_uses uses unissued
  · obtain still' | ⟨x', y', live', put'⟩ := put_of_uses uses' unissued'
    · rw [still, still', still]
    · rw [still, put', perform_put_of_ne wf live' y' uses other apart, Step.put, still]
  · have after := perform_put_of_ne wf live y uses' other.symm apart'
    obtain still' | ⟨x', y', live', put'⟩ := put_of_uses uses' unissued'
    · rw [put, after, Step.put, still', put]
    · rw [put, after, Step.put, put', perform_put_of_ne wf live' y' uses other apart, Step.put, put]
      exact congrArg (fun heap => { rt with heap }) (Heap.put_comm live live' other.symm y y').symm

/-- Two uses of different instances, whose native code never sets an object as its return value and
neither of which is given the instance of the other, can change places : each ends as it would have
ended alone, with the same notes, and the runtime afterwards is the same, with the same heap. -/
theorem perform_comm (reachable : rt.heap.Reachable) (uses : op.Uses h args)
    (uses' : op'.Uses k args') (other : h.tenancy ≠ k.tenancy)
    (apart : ∀ j, .object j ∈ args → j.tenancy ≠ k.tenancy)
    (apart' : ∀ j, .object j ∈ args' → j.tenancy ≠ h.tenancy)
    (silent : ∀ d, rt.Dispatches op d ∨ rt.Dispatches op' d → d.native.code.Silent) :
    let first := (rt.perform op).runtime.perform op'
    let second := (rt.perform op').runtime.perform op
    second.outcome = (rt.perform op).outcome ∧ second.notes = (rt.perform op).notes ∧
      first.outcome = (rt.perform op').outcome ∧ first.notes = (rt.perform op').notes ∧
      first.runtime = second.runtime := by
  have wf := reachable.wellFormed
  have unissued := issued_of_silent uses fun d dispatches => silent d (Or.inl dispatches)
  have unissued' := issued_of_silent uses' fun d dispatches => silent d (Or.inr dispatches)
  obtain ⟨outcome, notes⟩ := perform_after_uses wf uses uses' unissued' other apart
  obtain ⟨outcome', notes'⟩ := perform_after_uses wf uses' uses unissued other.symm apart'
  exact ⟨outcome, notes, outcome', notes',
    runtime_perform_comm wf uses uses' unissued unissued' other apart apart'⟩

open Gallery in
/-- Two counters are given the same token. One of them adds its number, the other takes it over and
panics, which is caught. -/
theorem perform_comm_counters :
    let add : Callable catalog :=
      changing .counter [⟨"by", .object .token⟩] (.int .i64) fun c (t, ()) =>
        let sum := Fixed.wrap .i64 (c.count.val + (Token.id t).val)
        (⟨sum⟩, .ok sum)
    let spoil : Callable catalog :=
      changing .counter [⟨"by", .object .token⟩] .unit fun _ (t, ()) =>
        (⟨Token.id t⟩, .panic (.message "spoilt"))
    let members : Members catalog :=
      (Members.empty.pushMethod (add.toMethod Exhibit.counter "add") rfl).pushMethod
        (spoil.toMethod Exhibit.counter "spoil") rfl
    let entry : ClassEntry catalog :=
      ⟨members, "Counter", catalog.identity .counter, .shared, none, none, true⟩
    let counter (n : Int) : Slot catalog := ⟨0, some ⟨.counter, ⟨.wrap .i64 n⟩, 1, false⟩⟩
    let token : Slot catalog := ⟨0, some ⟨.token, ⟨.wrap .i64 5⟩, 1, false⟩⟩
    let rt : Runtime catalog :=
      ⟨(Registry.empty "counters").pushClass entry rfl rfl, {}, ⟨#[counter 1, counter 2, token], [], 3⟩⟩
    let h : Handle := ⟨0, 0, catalog.identity .counter⟩
    let k : Handle := ⟨1, 0, catalog.identity .counter⟩
    let shared : List HostValue := [.object ⟨2, 0, catalog.identity .token⟩]
    let op : Operation := .callMethod h "add" shared
    let op' : Operation := .callMethod k "spoil" shared
    let first := (rt.perform op).runtime.perform op'
    let second := (rt.perform op').runtime.perform op
    rt.heap.Reachable ∧ op.Uses h shared ∧ op'.Uses k shared ∧ h.tenancy ≠ k.tenancy ∧
      (∀ d, rt.Dispatches op d ∨ rt.Dispatches op' d → d.native.code.Silent) ∧
      second.outcome = .ok (.value (.int (.wrap .i64 6))) ∧ (∀ r, first.outcome ≠ .ok r) ∧
      first.runtime = second.runtime := by
  intro add spoil members entry counter token rt h k shared op op' first second
  have reachable : rt.heap.Reachable := by
    let one : Heap catalog := ⟨#[counter 1], [], 1⟩
    let two : Heap catalog := ⟨#[counter 1, counter 2], [], 2⟩
    have made : Heap.allocate (C := catalog) .counter ⟨.wrap .i64 1⟩ .empty = .ok (h, one) := rfl
    have made' : Heap.allocate (C := catalog) .counter ⟨.wrap .i64 2⟩ one = .ok (k, two) := rfl
    have made'' : Heap.allocate (C := catalog) .token ⟨.wrap .i64 5⟩ two =
      .ok (⟨2, 0, catalog.identity .token⟩, rt.heap) := rfl
    exact ⟨_, .allocate (.allocate (.allocate (.refl .empty) made) made') made''⟩
  have owner : rt.registry.classOf? h.identity = some entry :=
    Registry.classOf?_eq_some_iff.2 ⟨List.mem_singleton_self entry, rfl⟩
  have found : rt.classFor h = .ok entry := classFor_of_live owner rfl
  have found' : rt.classFor k = .ok entry := classFor_of_live owner rfl
  have method : entry.method "add" = .ok (add.toMethod Exhibit.counter "add") := rfl
  have method' : entry.method "spoil" = .ok (spoil.toMethod Exhibit.counter "spoil") := rfl
  have uses : op.Uses h shared := .callMethod "add" shared
  have uses' : op'.Uses k shared := .callMethod "spoil" shared
  have apart : ∀ g : Handle, g.index < 2 → ∀ j, .object j ∈ shared → j.tenancy ≠ g.tenancy := by
    intro g low j given same
    obtain rfl := HostValue.object.inj (List.mem_singleton.1 given)
    have index : 2 = g.index := congrArg Prod.fst same
    omega
  have silent : ∀ d, rt.Dispatches op d ∨ rt.Dispatches op' d → d.native.code.Silent := by
    rintro d (called | called)
    · exact called.silent found method (add.silent_code nofun)
    · exact called.silent found' method' (spoil.silent_code nofun)
  have other : h.tenancy ≠ k.tenancy := by decide
  obtain ⟨added, -, spoilt, -, same⟩ := perform_comm reachable uses uses' other
    (apart k (by decide)) (apart h (by decide)) silent
  refine ⟨reachable, uses, uses', other, silent, added.trans ?_, fun r => spoilt.trans_ne ?_, same⟩
  · simp only [perform, callMethod, op, found, method]
    rfl
  · simp only [perform, callMethod, op', found', method']
    rintro ⟨⟩

end Runtime

end NativeBridge
