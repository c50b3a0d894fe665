import NativeBridge.Gallery.Sample
import NativeBridge.Proofs.Heap.Store
import NativeBridge.Proofs.Native.Orphans
import NativeBridge.Proofs.Runtime.Failure
import NativeBridge.Proofs.Runtime.Journal
import NativeBridge.Proofs.Runtime.StaleHandles
import NativeBridge.Proofs.Wrapper.Success

/-!
# Counting live instances

An instance that the host has no handle for would stay in the heap for good. With generated bindings
there is none : an operation issues the handles that it hands out (`Runtime.mem_issued_of_handedOut`),
and no others (`Runtime.issued_eq_handedOut`). Since only operations that issue a handle add an instance, and only
a release takes one away (`Runtime.live_perform`), the host can keep count from the journal alone.

`Runtime.live_after` : after every run on an empty heap, as many instances are live as have been
handed out and not been reclaimed, and no two of the handles handed out name the same use of a slot.
-/

namespace NativeBridge

variable {C : Catalog}

namespace Runtime

variable {rt : Runtime C} {op : Operation} {h k : Handle}

/-! ## Handles issued and handed out -/

theorem Refused.handedOut?_eq_none (refused : rt.Refused op) :
    (rt.entry op).handedOut? = none := by
  obtain ⟨e, -, performed⟩ := refused
  unfold entry
  rw [performed]
  cases op <;> rfl

/-- A handle that a call returns was issued by it. -/
theorem Relayed.mem_issued (relayed : rt.Relayed op .value)
    (handed : (rt.perform op).outcome.value?.bind Response.object? = some k) : k ∈ rt.issued op := by
  obtain ⟨d, dispatch, performed⟩ := relayed
  obtain ⟨r, answered, object⟩ := Option.bind_eq_some_iff.1 handed
  rw [performed] at answered
  obtain ⟨v, ended, rfl⟩ := exists_ok_of_finish (Outcome.value?_eq_some_iff.1 answered)
  obtain rfl := HostValue.object?_eq_some_iff.1 object
  rw [issued_of_dispatch dispatch]
  exact Invoker.issued_of_object ended

/-- A constructor that passes has returned the handle that is handed out. -/
theorem object_of_checkConstructed {e : ClassEntry C} {r : Invoker.Effect C HostValue}
    (ok : (checkConstructed e r).outcome = .ok h) : r.outcome = .ok (.object h) := by
  unfold checkConstructed at ok
  split at ok
  · cases ok
  · cases ok
  · next k returned =>
    split at ok
    · cases ok
      exact returned
    · split at ok <;> cases ok
  · cases ok

theorem Constructed.mem_issued (constructed : rt.Constructed op)
    (handed : (rt.perform op).outcome.value?.bind Response.handle? = some k) : k ∈ rt.issued op := by
  obtain ⟨e, c, args, -, -, dispatch, performed⟩ := constructed
  obtain ⟨r, answered, handle⟩ := Option.bind_eq_some_iff.1 handed
  rw [performed] at answered
  obtain ⟨h, checked, rfl⟩ := exists_ok_of_finish (Outcome.value?_eq_some_iff.1 answered)
  cases handle
  rw [issued_of_dispatch dispatch]
  exact Invoker.issued_of_object (object_of_checkConstructed checked)

/-- What an operation hands out it has issued. -/
theorem mem_issued_of_handedOut (handed : (rt.entry op).handedOut? = some k) : k ∈ rt.issued op := by
  have refuse (refused : rt.Refused op) : k ∈ rt.issued op := by
    rw [refused.handedOut?_eq_none] at handed
    cases handed
  cases op with
  | call name args => exact (rt.call_cases name args).elim refuse (·.mem_issued handed)
  | construct typeName args =>
    exact (rt.construct_cases typeName args).elim refuse (·.mem_issued handed)
  | constructWith typeName args keywords =>
    exact (rt.constructWith_cases typeName args keywords).elim refuse (·.mem_issued handed)
  | getField h name => exact (rt.getField_cases h name).elim refuse (·.mem_issued handed)
  | callMethod h name args => exact (rt.callMethod_cases h name args).elim refuse (·.mem_issued handed)
  | copy h =>
    obtain ⟨r, answered, handle⟩ := Option.bind_eq_some_iff.1 handed
    obtain ⟨j, copied, rfl⟩ := exists_ok_of_finish (Outcome.value?_eq_some_iff.1 answered)
    cases handle
    exact Option.mem_toList.2 (Outcome.value?_eq_some_iff.2 copied)
  | setField | release | share | typeOf | state | holders => cases handed

/-- Handles that are handed out over a run were issued in it. -/
theorem mem_issuedIn_of_handedOut {ops : List Operation} (handed : k ∈ (rt.journal ops).handedOut) :
    k ∈ rt.issuedIn ops := by
  induction ops generalizing rt with
  | nil => cases handed
  | cons op ops ih =>
    rw [journal, Journal.handedOut_cons, List.mem_append, Option.mem_toList] at handed
    exact List.mem_append.2 (handed.imp mem_issued_of_handedOut ih)

/-- Nothing is issued where nothing is called. -/
theorem Refused.issued_eq_handedOut (refused : rt.Refused op) (other : ¬∃ h, op = .copy h) :
    rt.issued op = (rt.entry op).handedOut?.toList := by
  rw [refused.handedOut?_eq_none]
  obtain ⟨e, dispatch, -⟩ := refused
  rw [issued, dispatch]
  cases op with
  | copy h => exact absurd ⟨h, rfl⟩ other
  | _ => rfl

/-- The code behind an operation is candid, except for setters, which issue nothing. -/
theorem Dispatches.candid {d : Dispatch C} (dispatches : rt.Dispatches op d)
    (generated : rt.registry.Generated) (getting : ∀ h name v, op ≠ .setField h name v) :
    d.native.code.Candid := by
  obtain ⟨c, code⟩ | ⟨o, p, code⟩ | ⟨o, p, set, -, h, name, v, setting⟩ :=
    dispatches.code_cases generated
  · rw [code]
    exact c.candid_code
  · rw [code]
    exact p.candid_getter
  · exact absurd setting (getting h name v)

/-- The handles of a call are those that it tells of. -/
theorem issued_of_candid {d : Dispatch C} (generated : rt.registry.Generated)
    (dispatch : rt.dispatch? op = some d) (getting : ∀ h name v, op ≠ .setField h name v) :
    rt.issued op = ((d.effect rt).outcome.value?.bind HostValue.object?).toList := by
  have dispatches := dispatch?_eq_some_iff.1 dispatch
  rw [issued_of_dispatch dispatch]
  exact Invoker.issued_transcript (dispatches.candid generated getting) (dispatches.tidy generated)

/-- Generated code issues the handle that it returns, and no other. -/
theorem Relayed.issued_eq_handedOut (generated : rt.registry.Generated)
    (relayed : rt.Relayed op .value) (getting : ∀ h name v, op ≠ .setField h name v)
    (told : (rt.entry op).handedOut? = (rt.perform op).outcome.value?.bind Response.object?) :
    rt.issued op = (rt.entry op).handedOut?.toList := by
  obtain ⟨d, dispatch, performed⟩ := relayed
  rw [told, issued_of_candid generated dispatch getting, performed, finish]
  cases (d.effect rt).outcome <;> rfl

/-- A generated constructor that succeeds returns an instance of its class, which passes. -/
theorem Constructed.issued_eq_handedOut (generated : rt.registry.Generated)
    (constructed : rt.Constructed op) (getting : ∀ h name v, op ≠ .setField h name v)
    (told : (rt.entry op).handedOut? = (rt.perform op).outcome.value?.bind Response.handle?) :
    rt.issued op = (rt.entry op).handedOut?.toList := by
  obtain ⟨e, c, args, member, present, dispatch, performed⟩ := constructed
  rw [told, issued_of_candid generated dispatch getting, performed, checkConstructed]
  cases returned : ((e.construction c args).effect rt).outcome with
  | panic p => rfl
  | error cause => rfl
  | ok v =>
    obtain ⟨h, rfl, own⟩ := returns_own (generated.classes _ member) present returned
    simp [own, finish, Outcome.bind, Outcome.mapError, Outcome.value?, HostValue.object?,
      Response.handle?]

/-- A generated setter issues nothing. -/
theorem issued_setField (generated : rt.registry.Generated) (h : Handle) (name : String)
    (v : HostValue) : rt.issued (.setField h name v) = [] := by
  cases dispatch : rt.dispatch? (.setField h name v) with
  | none =>
    rw [issued, dispatch]
    rfl
  | some d =>
    rw [issued_of_dispatch dispatch]
    cases dispatch?_eq_some_iff.1 dispatch with
    | setField entry field writable =>
      have origin := generated.classes _ (mem_of_classFor entry)
      obtain ⟨o, p, -, rfl⟩ := origin.field (ClassEntry.mem_of_field field)
      obtain ⟨set, code⟩ := Property.setter_of_toField writable
      unfold Dispatch.transcript Invoker.transcript
      split_ifs
      · rw [code]
        exact Native.issued_of_throughout (p.tidy_setter set) _ _
      · rfl

/-- The handles that an operation issues are those that it hands out. -/
theorem issued_eq_handedOut (generated : rt.registry.Generated) (op : Operation) :
    rt.issued op = (rt.entry op).handedOut?.toList := by
  cases op with
  | call name args =>
    obtain refused | relayed := rt.call_cases name args
    · exact refused.issued_eq_handedOut nofun
    · exact relayed.issued_eq_handedOut generated (fun _ _ _ => nofun) rfl
  | construct typeName args =>
    obtain refused | constructed := rt.construct_cases typeName args
    · exact refused.issued_eq_handedOut nofun
    · exact constructed.issued_eq_handedOut generated (fun _ _ _ => nofun) rfl
  | constructWith typeName args keywords =>
    obtain refused | constructed := rt.constructWith_cases typeName args keywords
    · exact refused.issued_eq_handedOut nofun
    · exact constructed.issued_eq_handedOut generated (fun _ _ _ => nofun) rfl
  | getField h name =>
    obtain refused | relayed := rt.getField_cases h name
    · exact refused.issued_eq_handedOut nofun
    · exact relayed.issued_eq_handedOut generated (fun _ _ _ => nofun) rfl
  | setField h name v => exact issued_setField generated h name v
  | callMethod h name args =>
    obtain refused | relayed := rt.callMethod_cases h name args
    · exact refused.issued_eq_handedOut nofun
    · exact relayed.issued_eq_handedOut generated (fun _ _ _ => nofun) rfl
  | copy h =>
    have told : (rt.entry (.copy h)).handedOut? =
        (rt.finish (rt.copy h) .handle).outcome.value?.bind Response.handle? := rfl
    have copies : rt.issued (.copy h) = (rt.copy h).outcome.value?.toList := rfl
    rw [told, copies, finish]
    cases (rt.copy h).outcome <;> rfl
  | release | share | typeOf | state | holders => rfl

/-! ## The number of live instances -/

theorem perform_registry (rt : Runtime C) (op : Operation) :
    (rt.perform op).runtime.registry = rt.registry := by
  cases op <;> rfl

theorem after_registry (rt : Runtime C) (ops : List Operation) :
    (rt.after ops).registry = rt.registry := by
  induction ops generalizing rt with
  | nil => rfl
  | cons op ops ih => exact (ih (rt.perform op).runtime).trans (rt.perform_registry op)

/-- Without a release that takes the last holder away, there are as many instances more as are
issued. -/
theorem live_perform_of_issued (generated : rt.registry.Generated)
    (unreclaimed : (rt.entry op).reclaimed? = none) :
    (rt.perform op).runtime.live = rt.live + (rt.issued op).length := by
  unfold Runtime.live
  cases rt.perform_moves op with
  | still heap _ issued =>
    rw [heap, issued]
    rfl
  | @called d dispatch heap =>
    rw [heap, issued_of_dispatch dispatch]
    exact (d.leads rt).live
  | misconstructed member present _ returned foreign =>
    obtain ⟨h, rfl, own⟩ := returns_own (generated.classes _ member) present returned
    exact absurd own (foreign h rfl)
  | @released h last operation release answered =>
    subst operation
    obtain ⟨x, -, ⟨-, -, heap⟩ | ⟨-, rfl, -⟩⟩ := Heap.release_eq_ok_iff.1 release
    · rw [heap]
      rfl
    · rw [entry, answered] at unreclaimed
      cases unreclaimed
  | shared operation share =>
    subst operation
    obtain ⟨x, -, -, -, heap⟩ := Heap.share_eq_ok_iff.1 share
    rw [heap]
    rfl
  | copied operation allocate issued =>
    rw [Heap.live_allocate allocate, issued]
    rfl

/-- A release that takes the last holder away leaves one instance less. -/
theorem live_perform_of_reclaimed {s : Store C} {t : Tenancy} (represents : rt.heap.Represents s)
    (reclaimed : (rt.entry op).reclaimed? = some t) :
    (rt.perform op).runtime.live + 1 = rt.live ∧ rt.issued op = [] := by
  obtain ⟨h, told, -⟩ := Entry.reclaimed?_eq_some_iff.1 reclaimed
  obtain ⟨rfl, answered⟩ := Entry.mk.inj told
  obtain ⟨x, live, ⟨-, e, -⟩ | ⟨-, -, heap⟩⟩ :=
    Heap.release_eq_ok_iff.1 (release_of_answer answered)
  · cases e
  · have counted := represents.live_pos live
    unfold Runtime.live
    rw [heap, Heap.live_reclaim]
    exact ⟨Nat.sub_add_cancel counted, rfl⟩

/-- One step : what lives afterwards or was reclaimed has lived before, or is new. -/
theorem live_perform {s : Store C} (generated : rt.registry.Generated)
    (represents : rt.heap.Represents s) (op : Operation) :
    (rt.perform op).runtime.live + (rt.entry op).reclaimed?.toList.length =
      rt.live + (rt.entry op).handedOut?.toList.length := by
  rw [← issued_eq_handedOut generated]
  cases reclaimed : (rt.entry op).reclaimed? with
  | none => exact live_perform_of_issued generated reclaimed
  | some t =>
    obtain ⟨live, issued⟩ := live_perform_of_reclaimed represents reclaimed
    rw [issued]
    exact live

/-! ## Runs -/

/-- Over generated bindings, a run issues the handles that it hands out, in that order. -/
theorem issuedIn_eq_handedOut (generated : rt.registry.Generated) (ops : List Operation) :
    rt.issuedIn ops = (rt.journal ops).handedOut := by
  induction ops generalizing rt with
  | nil => rfl
  | cons op ops ih =>
    have later := ih ((rt.perform_registry op).symm ▸ generated)
    rw [issuedIn, issued_eq_handedOut generated, later, journal, Journal.handedOut_cons]

/-- By induction on the operations. -/
theorem live_after_of_represents {s : Store C} (generated : rt.registry.Generated)
    (represents : rt.heap.Represents s) (ops : List Operation) :
    (rt.after ops).live + (rt.journal ops).reclaimed =
      rt.live + (rt.journal ops).handedOut.length := by
  induction ops generalizing rt s with
  | nil => rfl
  | cons op ops ih =>
    obtain ⟨s', represents'⟩ := (rt.perform_evolves op).represents represents
    have step := live_perform generated represents op
    have later := ih ((rt.perform_registry op).symm ▸ generated) represents'
    rw [after, journal, Journal.reclaimed_cons, Journal.handedOut_cons, List.length_append]
    omega

/-- After every run on an empty heap, the live instances are as many as have been handed out, less
those that have been reclaimed, and the handles handed out are distinct, even by what they name. -/
theorem live_after (registry : Registry C) (generated : registry.Generated) (config : Config)
    (ops : List Operation) :
    let rt : Runtime C := ⟨registry, config, .empty⟩
    (rt.after ops).live + (rt.journal ops).reclaimed = (rt.journal ops).handedOut.length ∧
      ((rt.journal ops).handedOut.map Handle.tenancy).Nodup := by
  intro rt
  refine ⟨?_, ?_⟩
  · rw [live_after_of_represents generated Heap.represents_empty]
    exact Nat.zero_add _
  · rw [← issuedIn_eq_handedOut generated]
    exact (rt.after_evolves ops).nodup Heap.wellFormed_empty

open Gallery in
/-- Of three tokens made the first is released, and a second release of its handle fails, although
its slot is in use again. -/
theorem live_after_reuse :
    let make : Callable catalog :=
      free [] (.option (.object .token)) fun () => .ok (some (Token.mk (.wrap .i64 7)))
    let registry : Registry catalog :=
      (Registry.empty "tokens").pushFunction (make.toFunction "make") rfl
    let rt : Runtime catalog := ⟨registry, {}, .empty⟩
    let release : Operation := .release ⟨0, 0, .empty⟩
    let ops : List Operation :=
      [.call "make" [], release, .call "make" [], release, .call "make" []]
    registry.Generated ∧ (rt.journal ops).handedOut.length = 3 ∧ (rt.journal ops).reclaimed = 1 ∧
      (rt.after ops).live = 2 ∧ ((rt.journal ops).handedOut.map Handle.tenancy).Nodup := by
  intro make registry rt release ops
  have generated : registry.Generated :=
    ⟨List.forall_mem_singleton.2 ⟨"make", make, trivial, rfl⟩, nofun⟩
  obtain ⟨counted, distinct⟩ := live_after registry generated {} ops
  have handed : (rt.journal ops).handedOut.length = 3 := by decide
  have reclaimed : (rt.journal ops).reclaimed = 1 := by decide
  have live : (rt.after ops).live + 1 = 3 := by
    rw [← handed, ← counted, reclaimed]
  exact ⟨generated, handed, reclaimed, Nat.succ.inj live, distinct⟩

end Runtime

end NativeBridge
