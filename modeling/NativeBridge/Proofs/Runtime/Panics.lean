import NativeBridge.Proofs.Runtime.ErrorKinds
import NativeBridge.Proofs.Runtime.Moves

/-!
# Panics of native code

A runtime that contains panics runs every call of native code behind the invoker, which turns a panic
into an error : a native failure, or an error of construction in a constructor
(`Runtime.Relayed.reports`, `Runtime.Constructed.reports`). The heap that the panic leaves is one that
heap operations make, so the run goes on as any other.

One door is not guarded : an instance that is copied on the host's request is duplicated outside of the
invoker. `Runtime.perform_panics_iff` : a panic leaves such a runtime if and only if the rule of a
class panics while it copies a live instance. `Runtime.copy_panics_fragile` is such a copy.
-/

namespace NativeBridge

variable {C : Catalog}

namespace Invoker

variable {inv : Invoker} {native : NativeFn C} {site : CallSite} {receiver : Option Handle}
  {args : List HostValue} {heap : Heap C} {p : Payload}

/-- An invoker that contains panics lets none through. -/
theorem invoke_ne_panic (contains : inv.catchPanics = true) :
    (inv.invoke native site receiver args heap).outcome ≠ .panic p := by
  unfold invoke call
  by_cases arity : args.length = site.params.length
  · simp only [arity, contains, if_true]
    rcases native.code.run ⟨args, receiver, inv.policy⟩ { heap } with ⟨_ | _ | _, s⟩ <;>
      simp [Outcome.contain, Outcome.bind, Outcome.mapError]
  · rw [if_neg arity]
    rintro ⟨⟩

/-- A panic that is contained is told as a native failure. -/
theorem invoke_of_contained (contains : inv.catchPanics = true)
    (arity : args.length = site.params.length)
    (ran : (native.code.run ⟨args, receiver, inv.policy⟩ { heap }).1 = .panic p) :
    (inv.invoke native site receiver args heap).outcome =
      .error (.nativeFailure site.text (NativeError.ofPanic p).message) := by
  unfold invoke call
  rw [if_pos arity]
  revert ran
  rcases native.code.run ⟨args, receiver, inv.policy⟩ { heap } with ⟨o, s⟩
  rintro rfl
  simp only [contains, if_true]
  rfl

end Invoker

/-- The code of the call runs, and panics. -/
def Dispatch.Panics (d : Dispatch C) (rt : Runtime C) (p : Payload) : Prop :=
  d.args.length = d.site.params.length ∧
    (d.native.code.run ⟨d.args, d.receiver, rt.config.policy⟩ { heap := rt.heap }).1 = .panic p

namespace Runtime

variable {rt : Runtime C} {op : Operation} {p : Payload}

/-- A panic that leaves the native code leaves the runtime. -/
theorem finish_eq_panic_iff {α : Type} {r : Invoker.Effect C α} {answer : α → Response} :
    (rt.finish r answer).outcome = .panic p ↔ r.outcome = .panic p := by
  unfold finish
  cases r.outcome <;> simp [Outcome.bind, Outcome.mapError]

/-- The check of what was constructed neither makes nor contains panics. -/
theorem checkConstructed_eq_panic_iff {e : ClassEntry C} {r : Invoker.Effect C HostValue} :
    (checkConstructed e r).outcome = .panic p ↔ r.outcome = .panic p := by
  unfold checkConstructed
  cases outcome : r.outcome with
  | panic q => simp
  | error cause => simp
  | ok v =>
    cases v with
    | object h =>
      dsimp only
      split
      · simp
      · cases r.heap.release h <;> simp
    | _ => simp

theorem Refused.ne_panic (refused : rt.Refused op) : (rt.perform op).outcome ≠ .panic p := by
  obtain ⟨e, -, refused⟩ := refused
  rw [refused]
  nofun

/-- Panics of native code are contained, if they are to be. -/
theorem Relayed.ne_panic {answer : HostValue → Response} (relayed : rt.Relayed op answer)
    (contains : rt.config.catchPanics = true) : (rt.perform op).outcome ≠ .panic p := by
  obtain ⟨d, -, relayed⟩ := relayed
  rw [relayed, Ne, finish_eq_panic_iff]
  exact Invoker.invoke_ne_panic contains

theorem Constructed.ne_panic (constructed : rt.Constructed op)
    (contains : rt.config.catchPanics = true) : (rt.perform op).outcome ≠ .panic p := by
  obtain ⟨e, c, args, -, -, -, constructed⟩ := constructed
  rw [constructed, Ne, finish_eq_panic_iff, checkConstructed_eq_panic_iff]
  exact Invoker.invoke_ne_panic contains

/-- Copying for the host panics exactly if the rule of the class does. -/
theorem copy_panics_iff {h : Handle} :
    (rt.copy h).outcome = .panic p ↔
      ∃ e rule value, rt.classFor h = .ok e ∧ e.copy = some rule ∧
        rt.heap.get rule.type h = .ok value ∧ rule.duplicate value = .panic p := by
  unfold copy
  cases found : rt.classFor h with
  | error cause => simp [refuse]
  | ok e =>
    dsimp only
    cases present : e.copy with
    | none => simp [refuse, present]
    | some rule =>
      dsimp only [CopyRule.apply]
      cases got : rt.heap.get rule.type h with
      | error cause => simp [present, got, Outcome.mapError]
      | ok value =>
        dsimp only
        cases copied : rule.duplicate value with
        | panic q => simp [present, got, copied, Outcome.mapError]
        | error cause => simp [present, got, copied, Outcome.mapError]
        | ok other =>
          dsimp only
          cases rt.heap.allocate rule.type other <;>
            simp [present, got, copied, Outcome.mapError]

/-- What panics for the host, if panics are contained : a copy whose class has a rule that panics. -/
theorem perform_panics_iff (contains : rt.config.catchPanics = true) :
    (rt.perform op).outcome = .panic p ↔
      ∃ h e rule value, op = .copy h ∧ rt.classFor h = .ok e ∧ e.copy = some rule ∧
        rt.heap.get rule.type h = .ok value ∧ rule.duplicate value = .panic p := by
  have called : ∀ {answer : HostValue → Response},
      rt.Refused op ∨ rt.Relayed op answer → (rt.perform op).outcome ≠ .panic p := by
    rintro answer (refused | relayed)
    · exact refused.ne_panic
    · exact relayed.ne_panic contains
  have constructs : rt.Refused op ∨ rt.Constructed op → (rt.perform op).outcome ≠ .panic p := by
    rintro (refused | constructed)
    · exact refused.ne_panic
    · exact constructed.ne_panic contains
  by_cases copies : ∃ h, op = .copy h
  · obtain ⟨h, rfl⟩ := copies
    rw [perform, finish_eq_panic_iff, copy_panics_iff]
    simp
  refine iff_of_false ?answered ?other
  case other =>
    rintro ⟨h, -, -, -, same, -⟩
    exact copies ⟨h, same⟩
  case answered =>
    cases op with
    | copy h => exact absurd ⟨h, rfl⟩ copies
    | call name args => exact called (rt.call_cases name args)
    | construct typeName args => exact constructs (rt.construct_cases typeName args)
    | constructWith typeName args keywords =>
      exact constructs (rt.constructWith_cases typeName args keywords)
    | getField h name => exact called (rt.getField_cases h name)
    | setField h name v => exact called (rt.setField_cases h name v)
    | callMethod h name args => exact called (rt.callMethod_cases h name args)
    | release h =>
      rw [perform, finish_eq_panic_iff, release]
      cases rt.heap.release h <;> simp [refuse]
    | share h =>
      rw [perform, finish_eq_panic_iff, share]
      cases rt.heap.share h <;> simp [refuse]
    | typeOf h =>
      rw [perform, answer, typeOf]
      cases rt.classFor h <;> simp [Except.map, Outcome.ofExcept, Outcome.mapError]
    | state h | holders h => rintro ⟨⟩

/-! ## Panics of calls -/

theorem finish_of_error {α : Type} {r : Invoker.Effect C α} {cause : BindingError}
    (failed : r.outcome = .error cause) (answer : α → Response) :
    (rt.finish r answer).outcome = .error (.ofBinding cause) := by
  rw [finish, failed]
  rfl

/-- A panic of a call is a native failure. -/
theorem Relayed.reports {answer : HostValue → Response} {d : Dispatch C}
    (relayed : rt.Relayed op answer) (contains : rt.config.catchPanics = true)
    (dispatch : rt.dispatch? op = some d) (panics : d.Panics rt p) :
    ∃ err, (rt.perform op).outcome = .error err ∧ err.kind = .nativeFailure := by
  obtain ⟨d', dispatch', performed⟩ := relayed
  cases dispatch.symm.trans dispatch'
  rw [performed]
  exact ⟨_, finish_of_error (Invoker.invoke_of_contained contains panics.1 panics.2) answer, rfl⟩

/-- A panic of a constructor is an error of construction. -/
theorem Constructed.reports {d : Dispatch C} (constructed : rt.Constructed op)
    (contains : rt.config.catchPanics = true) (dispatch : rt.dispatch? op = some d)
    (panics : d.Panics rt p) :
    ∃ err, (rt.perform op).outcome = .error err ∧ err.kind = .construction := by
  obtain ⟨e, c, args, -, -, dispatch', performed⟩ := constructed
  cases dispatch.symm.trans dispatch'
  have failed : ((e.construction c args).effect rt).outcome = .error (.nativeFailure _ _) :=
    Invoker.invoke_of_contained contains panics.1 panics.2
  have checked : (checkConstructed e ((e.construction c args).effect rt)).outcome =
      .error (.construction e.name none none none (NativeError.ofPanic p).message) := by
    rw [checkConstructed, failed]
    rfl
  rw [performed]
  exact ⟨_, finish_of_error checked .handle, rfl⟩

theorem Refused.no_dispatch {d : Dispatch C} (refused : rt.Refused op)
    (dispatch : rt.dispatch? op = some d) : False := by
  obtain ⟨e, none, -⟩ := refused
  cases none.symm.trans dispatch

/-- With panics contained, a panic of native code that an operation calls is answered as an error : one
of construction if the operation constructs an instance, and a native failure otherwise. -/
theorem reports (contains : rt.config.catchPanics = true) {d : Dispatch C}
    (dispatch : rt.dispatch? op = some d) (panics : d.Panics rt p) :
    ∃ err, (rt.perform op).outcome = .error err ∧
      (op.Constructs → err.kind = .construction) ∧ (¬op.Constructs → err.kind = .nativeFailure) := by
  have called : ∀ {answer : HostValue → Response}, ¬op.Constructs →
      rt.Refused op ∨ rt.Relayed op answer → ∃ err, (rt.perform op).outcome = .error err ∧
        (op.Constructs → err.kind = .construction) ∧
        (¬op.Constructs → err.kind = .nativeFailure) := by
    rintro answer other (refused | relayed)
    · exact (refused.no_dispatch dispatch).elim
    · obtain ⟨err, failed, kind⟩ := relayed.reports contains dispatch panics
      exact ⟨err, failed, fun constructs => absurd constructs other, fun _ => kind⟩
  have constructs : op.Constructs →
      rt.Refused op ∨ rt.Constructed op → ∃ err, (rt.perform op).outcome = .error err ∧
        (op.Constructs → err.kind = .construction) ∧
        (¬op.Constructs → err.kind = .nativeFailure) := by
    rintro own (refused | constructed)
    · exact (refused.no_dispatch dispatch).elim
    · obtain ⟨err, failed, kind⟩ := constructed.reports contains dispatch panics
      exact ⟨err, failed, fun _ => kind, fun other => absurd own other⟩
  cases op with
  | call name args => exact called id (rt.call_cases name args)
  | construct typeName args => exact constructs trivial (rt.construct_cases typeName args)
  | constructWith typeName args keywords =>
    exact constructs trivial (rt.constructWith_cases typeName args keywords)
  | getField h name => exact called id (rt.getField_cases h name)
  | setField h name v => exact called id (rt.setField_cases h name v)
  | callMethod h name args => exact called id (rt.callMethod_cases h name args)
  | release | share | copy | typeOf | state | holders => cases dispatch

/-- What panics come to in a runtime that contains them. Nothing panics for the host but a copy whose
rule does; a panic of a call is answered as an error, one of construction in a constructor and else a
native failure; and whatever has happened, the heap is one that heap operations make, under the same
registry and configuration, so that the run goes on. -/
theorem perform_contains (rt : Runtime C) (contains : rt.config.catchPanics = true)
    (op : Operation) :
    (∀ p, (rt.perform op).outcome = .panic p ↔
        ∃ h e rule value, op = .copy h ∧ rt.classFor h = .ok e ∧ e.copy = some rule ∧
          rt.heap.get rule.type h = .ok value ∧ rule.duplicate value = .panic p) ∧
      (∀ d p, rt.dispatch? op = some d → d.Panics rt p →
        ∃ err, (rt.perform op).outcome = .error err ∧
          (op.Constructs → err.kind = .construction) ∧
          (¬op.Constructs → err.kind = .nativeFailure)) ∧
      (rt.heap.Reachable → (rt.perform op).runtime.heap.Reachable) ∧
      (rt.perform op).runtime = { rt with heap := (rt.perform op).runtime.heap } := by
  refine ⟨fun p => perform_panics_iff contains, fun d p => reports contains, ?_, ?_⟩
  · rintro ⟨ks, evolves⟩
    exact ⟨_, evolves.trans (rt.perform_evolves op)⟩
  · cases op <;> rfl

open Gallery in
/-- A method of a tag panics after it has changed its receiver : a native failure, and the tag is still
there. -/
theorem perform_contains_wreck :
    let wreck : NativeFn catalog :=
      ⟨.empty, do
        let _ ← Native.thisMut (C := catalog) Exhibit.tag fun t => { t with note := none }
        Native.panic (.message "boom")⟩
    let entry : ClassEntry catalog :=
      ⟨Members.empty.pushMethod ⟨"wreck", .mutating, [], .none, wreck⟩ rfl, "Tag",
        catalog.identity .tag, .shared, none, none, true⟩
    let tag : Exhibit.tag.Instance := ⟨.wrap .u8 1, .ofBits 0, some "fresh", false, .wrap .i64 0⟩
    let rt : Runtime catalog :=
      ⟨(Registry.empty "tags").pushClass entry rfl rfl, {}, ⟨#[⟨0, some ⟨.tag, tag, 1, false⟩⟩], [], 1⟩⟩
    let h : Handle := ⟨0, 0, catalog.identity .tag⟩
    let op : Operation := .callMethod h "wreck" []
    rt.config.catchPanics = true ∧ rt.heap.Reachable ∧
      (∃ err, (rt.perform op).outcome = .error err ∧ err.kind = .nativeFailure) ∧
      (rt.perform op).runtime.heap.Reachable := by
  intro wreck entry tag rt h op
  have reachable : rt.heap.Reachable :=
    ⟨_, .allocate (.refl .empty) (show Heap.empty.allocate Exhibit.tag tag = _ from rfl)⟩
  have found : rt.classFor h = .ok entry := by
    have live : rt.heap.occupant? h = some ⟨.tag, tag, 1, false⟩ := rfl
    have owner : rt.registry.classOf? h.identity = some entry :=
      Registry.classOf?_eq_some_iff.2 ⟨List.mem_singleton_self entry, rfl⟩
    rw [classFor, live, owner]
  have method : entry.method "wreck" = .ok ⟨"wreck", .mutating, [], .none, wreck⟩ := rfl
  obtain ⟨-, told, heap, -⟩ := perform_contains rt rfl op
  obtain ⟨err, failed, -, kind⟩ :=
    told _ _ (dispatch?_eq_some_iff.2 (.callMethod found method)) ⟨rfl, rfl⟩
  exact ⟨rfl, reachable, ⟨err, failed, kind id⟩, heap reachable⟩

/-- Instances that cannot be copied : the attempt panics. -/
theorem copy_panics_fragile :
    let fragile : Catalog :=
      { Obj := Unit, Instance := fun _ => Unit, name := fun _ => "Fragile",
        sharing := fun _ => .exclusive, clone := fun _ _ => .error (.message "boom") }
    let entry : ClassEntry fragile :=
      ⟨.empty, "Fragile", fragile.identity (), .exclusive, some (.ofClone ()), none, false⟩
    let rt : Runtime fragile :=
      ⟨(Registry.empty "fragile").pushClass entry rfl rfl, {},
        ⟨#[⟨0, some ⟨(), (), 1, false⟩⟩], [], 1⟩⟩
    let h : Handle := ⟨0, 0, fragile.identity ()⟩
    rt.config.catchPanics = true ∧ rt.heap.Reachable ∧
      (rt.perform (.copy h)).outcome = .panic (.message "boom") := by
  intro fragile entry rt h
  have reachable : rt.heap.Reachable :=
    ⟨_, .allocate (.refl .empty) (show (Heap.empty : Heap fragile).allocate () () = _ from rfl)⟩
  have found : rt.classFor h = .ok entry := by
    have live : rt.heap.occupant? h = some ⟨(), (), 1, false⟩ := rfl
    have owner : rt.registry.classOf? h.identity = some entry :=
      Registry.classOf?_eq_some_iff.2 ⟨List.mem_singleton_self entry, rfl⟩
    rw [classFor, live, owner]
  refine ⟨rfl, reachable, (perform_panics_iff rfl).2 ?_⟩
  exact ⟨h, entry, .ofClone (), (), rfl, found, rfl, rfl, rfl⟩

end Runtime

end NativeBridge
