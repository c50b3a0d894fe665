import NativeBridge.Gallery.Sample
import NativeBridge.Proofs.Native.Orphans
import NativeBridge.Proofs.Runtime.StaleHandles
import NativeBridge.Proofs.Wrapper.Failure

/-!
# Constructions

A constructor is native code like any other, and what it returns may be no instance of its class, or
no instance at all. The runtime then takes back what has been made : it releases the object and
reports the constructor. That this leaves nothing behind takes a constructor that hands over at most
one return value and then has nothing left to fail at. `Native.DeliversIn` says so of a run, and it
holds of every run of a generated wrapper (`Callable.delivers_code`).

`Runtime.construct_settles` : a construction that succeeds brings one new instance, behind a handle
of its class (`Runtime.Brings`), and one that fails leaves every handle with what it reached before,
for whatever reason it fails (`Runtime.Undoes`). The release of an object of another class never
fails, since the call has just issued its handle (`Invoker.release_of_object`).
-/

namespace NativeBridge

variable {C : Catalog} {α : Type}

/-! ## Code that delivers -/

/-- The return value has been set. -/
def Exchange.sets : Exchange C → Bool
  | ⟨.setReturn _ _, .ok (.ok _), _⟩ => true
  | _ => false

namespace Exchange

variable {e : Exchange C} {k : Handle}

theorem issued?_of_panic {p : Payload} (panicked : e.answer = .error p) : e.issued? = none := by
  obtain ⟨r, answer, after⟩ := e
  obtain rfl : answer = .error p := panicked
  cases r <;> rfl

/-- A handle is issued by setting the return value to its object. -/
theorem sets_of_issued (issued : e.issued? = some k) :
    e.sets = true ∧ e.after.result = .object k := by
  obtain ⟨r, answer, after⟩ := e
  cases r with
  | setReturn t v =>
    rcases answer with p | (cause | ⟨⟩)
    · cases issued
    · cases issued
    · exact ⟨rfl, HostValue.object?_eq_some_iff.1 issued⟩
  | argCount | outline | slot | arg | this | thisMut | note => cases issued

end Exchange

namespace Native

/-- The run does not set its return value twice, and succeeds if it sets it. -/
structure DeliversIn (m : Native C Unit) (f : Frame) (s : Activation C) : Prop where
  once : (m.transcript f s).countP Exchange.sets ≤ 1
  last : ∀ e ∈ m.transcript f s, e.sets = true → (m.run f s).1 = .ok ()

/-- Every run does. -/
def Delivers (m : Native C Unit) : Prop := ∀ f s, m.DeliversIn f s

/-! ### The last return value -/

/-- What a call returns is set by no other request than the one for that. -/
theorem result_perform (f : Frame) (r : Request C) (s : Activation C)
    (unset : (r.exchange f s).sets = false) : (r.perform f s).2.result = s.result := by
  cases r with
  | argCount | outline | slot | note => rfl
  | arg index t => rw [Request.perform_arg_after]
  | this o => rw [Request.perform_this_after]
  | thisMut o change =>
    simp only [Request.perform]
    split
    · rfl
    · split <;> rfl
  | setReturn t v =>
    cases handed : t.toHost v s.heap with
    | error e => simp [Request.perform, handed]
    | ok p => simp [Request.exchange, Request.perform, handed, Exchange.sets] at unset

/-- By induction on the code, one exchange at a time. -/
theorem result_run (code : Native C α) (f : Frame) (s : Activation C)
    (unset : ∀ e ∈ code.transcript f s, e.sets = false) : (code.run f s).2.result = s.result := by
  induction code generalizing s with
  | finish o => rfl
  | ask r k ih =>
    rcases hp : r.perform f s with ⟨p | a, s'⟩
    · rw [transcript_ask_of_panic hp] at unset
      rw [run_ask_of_panic hp, ← result_perform f r s (unset _ (List.mem_singleton_self _)), hp]
    · rw [transcript_ask_of_ok hp] at unset
      obtain ⟨here, later⟩ := List.forall_mem_cons.1 unset
      rw [run_ask_of_ok hp, ih a s' later, ← result_perform f r s here, hp]

/-- Code that sets its return value at most once issues nothing, or the object that it ends with. By
induction on the code : behind the exchange that sets the value nothing else does. -/
theorem issued_of_once (code : Native C α) (f : Frame) (s : Activation C)
    (once : (code.transcript f s).countP Exchange.sets ≤ 1) :
    (code.transcript f s).issued = [] ∨
      ∃ k, (code.transcript f s).issued = [k] ∧ (code.run f s).2.result = .object k := by
  induction code generalizing s with
  | finish o => exact Or.inl rfl
  | ask r k ih =>
    rcases hp : r.perform f s with ⟨p | a, s'⟩
    · have silent : (r.exchange f s).issued? = none :=
        Exchange.issued?_of_panic (congrArg Prod.fst hp)
      rw [transcript_ask_of_panic hp, Transcript.issued_singleton, silent]
      exact Or.inl rfl
    · rw [transcript_ask_of_ok hp, List.countP_cons] at once
      rw [transcript_ask_of_ok hp, run_ask_of_ok hp, ← List.singleton_append,
        Transcript.issued_append, Transcript.issued_singleton]
      cases issued : (r.exchange f s).issued? with
      | none =>
        rw [Option.toList_none, List.nil_append]
        exact ih a s' (by omega)
      | some h =>
        obtain ⟨sets, result⟩ := Exchange.sets_of_issued issued
        rw [sets, if_pos rfl, Nat.add_le_add_iff_right, Nat.le_zero, List.countP_eq_zero] at once
        have unset : ∀ e ∈ (k a).transcript f s', e.sets = false :=
          fun e mem => Bool.eq_false_iff.2 (once e mem)
        have silent : ((k a).transcript f s').issued = [] := by
          refine List.filterMap_eq_nil_iff.2 fun e mem => Option.eq_none_iff_forall_ne_some.2 ?_
          intro j again
          cases (unset e mem).symm.trans (Exchange.sets_of_issued again).1
        refine Or.inr ⟨h, by rw [silent]; rfl, ?_⟩
        rw [result_run _ f s' unset, ← result]
        exact congrArg Activation.result (congrArg Prod.snd hp).symm

/-! ### Wrappers deliver -/

theorem delivers_finish (o : Outcome NativeError Unit) : (finish o : Native C Unit).Delivers := by
  refine fun f s => ⟨Nat.zero_le _, fun e mem => ?_⟩
  rw [transcript_finish] at mem
  cases mem

theorem delivers_setReturn (t : NativeType C) (v : t.Value) : (setReturn t v).Delivers := by
  intro f s
  have asked : (setReturn t v).transcript f s = [(Request.setReturn t v).exchange f s] :=
    transcript_ask transcript_demand f s
  refine ⟨asked ▸ List.countP_le_length, asked ▸ List.forall_mem_singleton.2 fun sets => ?_⟩
  have run := run_setReturn f s t v
  cases handed : t.toHost v s.heap with
  | ok p =>
    rw [handed] at run
    exact congrArg Prod.fst run
  | error e => simp [Request.exchange, Request.perform, handed, Exchange.sets] at sets

/-- What precedes code that delivers may do anything but set the return value. -/
theorem Throughout.bind_delivers {m : Native C α} {k : α → Native C Unit}
    (first : m.Throughout fun e => e.sets = false) (second : ∀ a, (k a).Delivers) :
    (m >>= k).Delivers := by
  intro f s
  have unset : (m.transcript f s).countP Exchange.sets = 0 :=
    List.countP_eq_zero.2 fun e mem => Bool.eq_false_iff.1 (first f s e mem)
  have transcript := transcript_bind m k f s
  have run := run_bind m k f s
  rcases ended : m.run f s with ⟨a | cause | p, s'⟩
  all_goals rw [ended] at transcript run
  · obtain ⟨once, last⟩ := second a f s'
    refine ⟨?_, fun e mem sets => ?_⟩
    · rw [transcript, List.countP_append, unset, Nat.zero_add]
      exact once
    · rw [transcript] at mem
      rw [run]
      rcases List.mem_append.1 mem with before | behind
      · cases (first f s e before).symm.trans sets
      · exact last e behind sets
  all_goals
    rw [List.append_nil] at transcript
    refine ⟨by rw [transcript, unset]; exact Nat.zero_le 1, fun e mem sets => ?_⟩
    cases (first f s e (transcript ▸ mem)).symm.trans sets

/-- Generated code delivers at most once, at its end. -/
theorem wrapping_delivers :
    Wrapping (C := C) (fun _ => Throughout fun e => e.sets = false) Delivers :=
  { wrapping_throughout fun _ _ _ => rfl with
    last := Throughout.bind_delivers
    ends := fun _ => delivers_finish _ }

end Native

open Native in
/-- Generated code hands its result over last. -/
theorem Callable.delivers_code (c : Callable C) : c.code.Delivers :=
  wrapping_delivers.code c (fun i p _ => throughout_arg i p.type fun _ _ => rfl)
    (fun _ _ _ _ => throughout_ask transcript_demand fun _ _ => rfl) (delivers_setReturn c.returns)

namespace Invoker

variable {inv : Invoker} {native : NativeFn C} {site : CallSite} {receiver : Option Handle}
  {args : List HostValue} {heap : Heap C}

/-- A call of code that delivers issues the object that it returns, and nothing else. -/
theorem issued_of_delivers
    (delivers : native.code.DeliversIn ⟨args, receiver, inv.policy⟩ { heap }) :
    (inv.transcript native site receiver args heap).issued =
      (inv.invoke native site receiver args heap).object?.toList := by
  by_cases arity : args.length = site.params.length
  · rw [transcript, if_pos arity]
    rcases Native.issued_of_once _ _ _ delivers.once with silent | ⟨k, issued, result⟩
    · cases returned : (inv.invoke native site receiver args heap).object? with
      | none => exact silent
      | some k =>
        have issued := issued_of_object (Effect.object?_eq_some_iff.1 returned)
        rw [transcript, if_pos arity, silent] at issued
        cases issued
    · -- the exchange that issued the object has been the last one
      obtain ⟨e, mem, named⟩ := List.mem_filterMap.1 (issued ▸ List.mem_singleton_self k)
      have ended := delivers.last e mem (Exchange.sets_of_issued named).1
      have returned := (invoke_eq_ok_iff ..).2 ⟨arity, ended, result⟩
      rw [issued, Effect.object?_eq_some_iff.2 returned]
      rfl
  · rw [transcript, invoke, if_neg arity, if_neg arity]
    rfl

/-- An object that a call returns has one holder, so a release takes it away again. -/
theorem release_of_object (wf : heap.WellFormed) {k : Handle}
    (returned : (inv.invoke native site receiver args heap).outcome = .ok (.object k)) :
    (inv.invoke native site receiver args heap).heap.release k =
      .ok (true, (inv.invoke native site receiver args heap).heap.reclaim k) := by
  have leads := inv.invoke_leads native site receiver args heap
  obtain ⟨-, x, live, one⟩ := leads.live_of_issued wf (issued_of_object returned)
  exact Heap.release_of_last live (by rw [one])

end Invoker

/-! ## One new instance -/

/-- The instance behind a new handle is there, and nothing else has changed. -/
structure Heap.Gains (a : Heap C) (k : Handle) (b : Heap C) : Prop where
  new : ¬a.Issued k.tenancy
  made : ∃ x, b.occupant? k = some x ∧ x.holders = 1 ∧ k.identity = C.identity x.type
  others : ∀ h, h.tenancy ≠ k.tenancy → b.occupant? h = a.occupant? h
  live : b.live = a.live + 1

namespace Heap.Gains

variable {a b : Heap C} {k : Handle} (gains : a.Gains k b) (wf : a.WellFormed)

include gains wf

/-- Behind the new handle there was nothing before. -/
theorem stale : a.occupant? k = none :=
  Option.eq_none_iff_forall_ne_some.2 fun _ before => gains.new (wf.issued_of_live before)

/-- Reclaiming the new instance brings everything back that can be seen. -/
theorem reclaim :
    (∀ h, (b.reclaim k).occupant? h = a.occupant? h) ∧ (b.reclaim k).live = a.live := by
  obtain ⟨x, live, -⟩ := gains.made
  refine ⟨fun h => ?_, ?_⟩
  · rw [occupant?_reclaim live]
    split_ifs with here
    · rw [occupant?_congr a here, gains.stale wf]
    · exact gains.others h here
  · rw [live_reclaim, gains.live, Nat.add_sub_cancel]

end Heap.Gains

namespace Transcript.Leads

variable {a b : Heap C} {t : Transcript C} {h k : Handle}

/-- Without a receiver, all instances stay as they are, and what is issued is all that is new. -/
theorem occupant?_of_unissued (leads : t.Leads none a b) (wf : a.WellFormed)
    (unissued : ∀ k ∈ t.issued, k.tenancy ≠ h.tenancy) : b.occupant? h = a.occupant? h := by
  cases before : a.occupant? h with
  | some x => exact (leads.conduct wf).others h x before nofun
  | none =>
    cases after : b.occupant? h with
    | none => rfl
    | some x =>
      obtain ⟨k, issued, same⟩ := (leads.conduct wf).issued h x before after
      exact absurd same (unissued k issued)

/-- If one handle was issued, the heap gains the instance behind it. -/
theorem gains (leads : t.Leads none a b) (wf : a.WellFormed) (issued : t.issued = [k]) :
    a.Gains k b := by
  have mem : k ∈ t.issued := by simp [issued]
  obtain ⟨-, x, live, one⟩ := leads.live_of_issued wf mem
  refine ⟨leads.evolves.fresh wf mem, ?_, fun h other => ?_, ?_⟩
  · exact ⟨x, live, one, leads.evolves.identity_of_issued wf mem live⟩
  · refine leads.occupant?_of_unissued wf ?_
    rw [issued]
    exact List.forall_mem_singleton.2 (Ne.symm other)
  · rw [leads.live, issued, List.length_singleton]

end Transcript.Leads

/-! ## Constructions that succeed and constructions that fail -/

/-- Name of the type that the operation constructs an instance of. -/
def Operation.constructs? : Operation → Option String
  | .construct typeName _ | .constructWith typeName _ _ => some typeName
  | _ => none

namespace Runtime

variable {rt : Runtime C} {op : Operation} {typeName : String} {e : ClassEntry C}
  {c : ConstructorMeta C} {args : List HostValue} {h k : Handle}

/-- The operation issues the handle, and all that it does to the heap is to add its instance. -/
structure Brings (rt : Runtime C) (op : Operation) (h : Handle) : Prop where
  issued : rt.issued op = [h]
  gains : rt.heap.Gains h (rt.perform op).runtime.heap

/-- The operation leaves every handle with what it reached before. What it has made on the way is
gone, and its handles are refused from then on. -/
structure Undoes (rt : Runtime C) (op : Operation) : Prop where
  view : ∀ h, (rt.perform op).runtime.heap.occupant? h = rt.heap.occupant? h
  live : (rt.perform op).runtime.live = rt.live
  gone : ∀ k ∈ rt.issued op, ∀ ops, ((rt.perform op).runtime.after ops).Refuses k

/-- The operation calls the constructor of the class and checks what it returns. -/
structure Builds (rt : Runtime C) (op : Operation) (e : ClassEntry C) (c : ConstructorMeta C)
    (args : List HostValue) : Prop where
  dispatch : rt.dispatch? op = some (e.construction c args)
  perform : rt.perform op =
    rt.finish (checkConstructed e ((e.construction c args).effect rt)) .handle

/-- A construction calls the constructor of the class that is named. -/
theorem Dispatches.builds {d : Dispatch C} (dispatches : rt.Dispatches op d)
    (constructs : op.constructs? = some typeName) :
    ∃ e c args, d = e.construction c args ∧ rt.registry.classNamed typeName = .ok e ∧
      e.constructor = some c ∧ rt.Builds op e c args := by
  have dispatch := dispatch?_eq_some_iff.2 dispatches
  cases dispatches with
  | @construct _ args e c entry present =>
    cases constructs
    refine ⟨e, c, args, rfl, entry, present, dispatch, ?_⟩
    simp only [Runtime.perform, Runtime.construct, entry, runConstructor, present]
    rfl
  | @constructWith _ args bound keywords e c entry present binding =>
    cases constructs
    refine ⟨e, c, bound, rfl, entry, present, dispatch, ?_⟩
    simp only [Runtime.perform, Runtime.constructWith, entry, present, binding, runConstructor]
    rfl
  | call | getField | setField | callMethod => cases constructs

/-- A construction is refused or gets as far as the constructor. -/
theorem refused_or_builds (constructs : op.constructs? = some typeName) :
    rt.Refused op ∨ ∃ e c args, rt.registry.classNamed typeName = .ok e ∧
      e.constructor = some c ∧ rt.Builds op e c args := by
  have cases : rt.Refused op ∨ rt.Constructed op := by
    cases op with
    | construct typeName args => exact rt.construct_cases typeName args
    | constructWith typeName args keywords => exact rt.constructWith_cases typeName args keywords
    | _ => cases constructs
  rcases cases with refused | ⟨_, _, _, _, _, dispatch, _⟩
  · exact Or.inl refused
  · obtain ⟨e, c, args, -, found⟩ := (dispatch?_eq_some_iff.1 dispatch).builds constructs
    exact Or.inr ⟨e, c, args, found⟩

/-! ### The check of the result -/

section Check

variable {r : Invoker.Effect C HostValue}

theorem checkConstructed_of_own (returned : r.outcome = .ok (.object k))
    (own : k.identity = e.identity) : checkConstructed e r = { r with outcome := .ok k } := by
  rw [checkConstructed, returned]
  exact if_pos own

/-- An instance of another type is released, and the construction has failed. -/
theorem checkConstructed_of_foreign (returned : r.outcome = .ok (.object k))
    (foreign : k.identity ≠ e.identity) {last : Bool} {heap : Heap C}
    (release : r.heap.release k = .ok (last, heap)) :
    checkConstructed e r =
      { r with outcome := .error (checkConstructed.wrongResult e (.object k)), heap } := by
  rw [checkConstructed, returned]
  dsimp only
  rw [if_neg foreign, release]

theorem checkConstructed_of_plain {v : HostValue} (returned : r.outcome = .ok v)
    (plain : v.object? = none) :
    checkConstructed e r = { r with outcome := .error (checkConstructed.wrongResult e v) } := by
  rw [checkConstructed, returned]
  cases v with
  | object k => cases plain
  | none | bool _ | int _ | float _ | str _ => rfl

/-- Without an object the check fails and leaves the heap alone. -/
theorem checkConstructed_of_none (none : r.object? = none) :
    (checkConstructed e r).heap = r.heap ∧ ∀ h, (checkConstructed e r).outcome ≠ .ok h := by
  cases ended : r.outcome with
  | ok v =>
    rw [Invoker.Effect.object?, ended] at none
    rw [checkConstructed_of_plain ended none]
    refine ⟨rfl, fun h ok => ?_⟩
    cases ok
  | error _ | panic _ =>
    rw [checkConstructed, ended]
    refine ⟨rfl, fun h ok => ?_⟩
    cases ok

end Check

/-! ### Constructions that have nothing to take back -/

/-- An operation has undone what it did if it has issued nothing, and what is behind handles and the
number of instances are as before. -/
theorem undoes_of_silent (silent : rt.issued op = [])
    (view : ∀ h, (rt.perform op).runtime.heap.occupant? h = rt.heap.occupant? h)
    (live : (rt.perform op).runtime.live = rt.live) : rt.Undoes op := by
  refine ⟨view, live, fun k issued => ?_⟩
  rw [silent] at issued
  cases issued

theorem Refused.undoes (refused : rt.Refused op) (constructs : op.constructs? = some typeName) :
    rt.Undoes op := by
  obtain ⟨cause, dispatch, perform⟩ := refused
  have silent : rt.issued op = [] := by
    rw [issued, dispatch]
    cases op with
    | copy h => cases constructs
    | _ => rfl
  exact undoes_of_silent silent (by rw [perform]; exact fun _ => rfl) (by rw [perform]; rfl)

namespace Builds

variable (builds : rt.Builds op e c args) (wf : rt.heap.WellFormed)
  (delivers : c.native.code.DeliversIn ⟨args, none, rt.config.policy⟩ { heap := rt.heap })

include builds

theorem heap : (rt.perform op).runtime.heap =
    (checkConstructed e ((e.construction c args).effect rt)).heap := by
  rw [builds.perform]
  rfl

theorem outcome : (rt.perform op).outcome =
    ((checkConstructed e ((e.construction c args).effect rt)).outcome.bind
      fun h => .ok (.handle h)).mapError HostError.ofBinding := by
  rw [builds.perform]
  rfl

include delivers in
theorem issued : rt.issued op = ((e.construction c args).effect rt).object?.toList := by
  rw [issued_of_dispatch builds.dispatch]
  exact Invoker.issued_of_delivers delivers

/-! ### What the constructor returns -/

include wf delivers

/-- The object that the constructor returns is all that the call adds. -/
theorem gains (returned : ((e.construction c args).effect rt).outcome = .ok (.object k)) :
    rt.issued op = [k] ∧ rt.heap.Gains k ((e.construction c args).effect rt).heap := by
  have issued : rt.issued op = [k] := by
    rw [builds.issued delivers, Invoker.Effect.object?_eq_some_iff.2 returned, Option.toList_some]
  refine ⟨issued, ((e.construction c args).leads rt).gains wf ?_⟩
  rw [← issued_of_dispatch builds.dispatch, issued]

/-- An instance of the class is all that a construction brings. -/
theorem brings (returned : ((e.construction c args).effect rt).outcome = .ok (.object k))
    (own : k.identity = e.identity) :
    (rt.perform op).outcome = .ok (.handle k) ∧ rt.Brings op k := by
  have checked := checkConstructed_of_own returned own
  obtain ⟨issued, gains⟩ := builds.gains wf delivers returned
  refine ⟨by rw [builds.outcome, checked]; rfl, issued, ?_⟩
  rw [builds.heap, checked]
  exact gains

/-- An object of another class is released, and its slot never leads to it again. -/
theorem undoes_of_foreign (returned : ((e.construction c args).effect rt).outcome = .ok (.object k))
    (foreign : k.identity ≠ e.identity) :
    rt.Undoes op ∧
      (rt.perform op).outcome = .error (.ofBinding (checkConstructed.wrongResult e (.object k))) ∧
      ((e.construction c args).effect rt).heap.release k =
        .ok (true, (rt.perform op).runtime.heap) := by
  have release : ((e.construction c args).effect rt).heap.release k =
      .ok (true, ((e.construction c args).effect rt).heap.reclaim k) :=
    Invoker.release_of_object wf returned
  have checked := checkConstructed_of_foreign returned foreign release
  obtain ⟨issued, gains⟩ := builds.gains wf delivers returned
  obtain ⟨view, live⟩ := gains.reclaim wf
  have heap : (rt.perform op).runtime.heap =
      ((e.construction c args).effect rt).heap.reclaim k := by
    rw [builds.heap, checked]
  rw [← heap] at view live release
  refine ⟨⟨view, live, ?_⟩, by rw [builds.outcome, checked]; rfl, release⟩
  rw [issued]
  refine List.forall_mem_singleton.2 fun ops => refuses_of_stale ?_
  have evolves := rt.perform_evolves op
  have gone : (rt.perform op).runtime.heap.occupant? k = none := by
    rw [view, gains.stale wf]
  refine (after_evolves _ ops).stale (evolves.wellFormed wf) ?_ gone
  exact (evolves.issued_iff wf _).2 (Or.inr (by simp [issued]))

/-- Without an object the call has issued nothing, so that there is nothing to take back. -/
theorem undoes_of_none (none : ((e.construction c args).effect rt).object? = none) :
    rt.Undoes op ∧ ∀ r, (rt.perform op).outcome ≠ .ok r := by
  obtain ⟨kept, failed⟩ := checkConstructed_of_none (e := e) none
  have silent : rt.issued op = [] := by rw [builds.issued delivers, none, Option.toList_none]
  have leads := (e.construction c args).leads rt
  have transcript := issued_of_dispatch builds.dispatch
  rw [silent] at transcript
  have heap := builds.heap.trans kept
  refine ⟨undoes_of_silent silent (fun h => ?_) ?_, fun r ok => ?_⟩
  · rw [heap]
    exact leads.occupant?_of_unissued wf (by rw [← transcript]; nofun)
  · rw [Runtime.live, heap]
    exact leads.live.trans (by rw [← transcript]; rfl)
  · rw [builds.perform] at ok
    obtain ⟨h, checked, -⟩ := exists_ok_of_finish ok
    exact failed h checked

end Builds

/-! ## Every construction -/

/-- A construction succeeds only with a new instance of its class, and if it fails, nothing of it
stays. An object of the class is always accepted; anything else that the constructor returns is
reported, and if it is an object, its release succeeds and reclaims it. -/
theorem construct_settles (rt : Runtime C) (reachable : rt.heap.Reachable) (op : Operation)
    (typeName : String) (constructs : op.constructs? = some typeName)
    (delivers : ∀ e c args, rt.registry.classNamed typeName = .ok e → e.constructor = some c →
      c.native.code.DeliversIn ⟨args, none, rt.config.policy⟩ { heap := rt.heap }) :
    (∀ r, (rt.perform op).outcome = .ok r →
        ∃ e h, rt.registry.classNamed typeName = .ok e ∧ r = .handle h ∧
          h.identity = e.identity ∧ rt.Brings op h) ∧
      ((∀ r, (rt.perform op).outcome ≠ .ok r) → rt.Undoes op) ∧
      ∀ d e v, rt.dispatch? op = some d → rt.registry.classNamed typeName = .ok e →
        (d.effect rt).outcome = .ok v →
        (∃ h, v = .object h ∧ h.identity = e.identity ∧ (rt.perform op).outcome = .ok (.handle h)) ∨
          (rt.perform op).outcome = .error (.ofBinding (checkConstructed.wrongResult e v)) ∧
            ∀ h, v = .object h → h.identity ≠ e.identity ∧
              (d.effect rt).heap.release h = .ok (true, (rt.perform op).runtime.heap) := by
  have wf := reachable.wellFormed
  rcases refused_or_builds constructs with refused | ⟨e, c, args, entry, present, builds⟩
  · obtain ⟨cause, dispatch, perform⟩ := id refused
    refine ⟨fun r ok => ?_, fun _ => refused.undoes constructs, fun d _ _ dispatch' => ?_⟩
    · rw [perform] at ok
      cases ok
    · cases dispatch.symm.trans dispatch'
  · have delivers := delivers e c args entry present
    have dispatched : ∀ d, rt.dispatch? op = some d → d = e.construction c args :=
      fun d dispatch => Option.some.inj (dispatch.symm.trans builds.dispatch)
    cases object : ((e.construction c args).effect rt).object? with
    | none =>
      obtain ⟨undoes, failed⟩ := builds.undoes_of_none wf delivers object
      refine ⟨fun r ok => absurd ok (failed r), fun _ => undoes, ?_⟩
      intro d e' v dispatch entry' returned
      cases dispatched d dispatch
      cases entry.symm.trans entry'
      rw [Invoker.Effect.object?, returned] at object
      refine Or.inr ⟨?_, fun h same => ?_⟩
      · rw [builds.outcome, checkConstructed_of_plain returned object]
        rfl
      · rw [same] at object
        cases object
    | some k =>
      have returned := Invoker.Effect.object?_eq_some_iff.1 object
      by_cases own : k.identity = e.identity
      · obtain ⟨ok, brings⟩ := builds.brings wf delivers returned own
        refine ⟨fun r ok' => ?_, fun failed => absurd ok (failed _), ?_⟩
        · cases ok.symm.trans ok'
          exact ⟨e, k, entry, rfl, own, brings⟩
        · intro d e' v dispatch entry' returned'
          cases dispatched d dispatch
          cases entry.symm.trans entry'
          cases returned.symm.trans returned'
          exact Or.inl ⟨k, rfl, own, ok⟩
      · obtain ⟨undoes, failed, release⟩ := builds.undoes_of_foreign wf delivers returned own
        refine ⟨fun r ok => ?_, fun _ => undoes, ?_⟩
        · cases failed.symm.trans ok
        · intro d e' v dispatch entry' returned'
          cases dispatched d dispatch
          cases entry.symm.trans entry'
          cases returned.symm.trans returned'
          refine Or.inr ⟨failed, fun h same => ?_⟩
          cases same
          exact ⟨own, release⟩

open Gallery in
/-- The constructor of tokens makes a counter, next to another one. The counter is taken back. -/
theorem construct_settles_miscast :
    let miscast : Callable catalog := ⟨[], .object .counter, .free fun _ => .ok ⟨.wrap .i64 5⟩⟩
    let entry : ClassEntry catalog :=
      ⟨.empty, "Token", catalog.identity .token, .exclusive, none,
        some (miscast.toConstructor .token), true⟩
    let heap : Heap catalog := ⟨#[⟨0, some ⟨.counter, ⟨.wrap .i64 1⟩, 1, false⟩⟩], [], 1⟩
    let rt : Runtime catalog := ⟨(Registry.empty "tokens").pushClass entry rfl rfl, {}, heap⟩
    let op : Operation := .construct "Token" []
    let counter : Handle := ⟨1, 0, catalog.identity .counter⟩
    rt.heap.Reachable ∧ op.constructs? = some "Token" ∧
      (∀ e c args, rt.registry.classNamed "Token" = .ok e → e.constructor = some c →
        c.native.code.DeliversIn ⟨args, none, rt.config.policy⟩ { heap := rt.heap }) ∧
      (rt.perform op).outcome =
        .error (.ofBinding (checkConstructed.wrongResult entry (.object counter))) ∧
      rt.Undoes op := by
  intro miscast entry heap rt op counter
  have allocate : Heap.allocate (C := catalog) .counter ⟨.wrap .i64 1⟩ .empty =
      .ok (⟨0, 0, catalog.identity .counter⟩, heap) := rfl
  have reachable : heap.Reachable := ⟨_, .allocate (.refl .empty) allocate⟩
  have found : rt.registry.classNamed "Token" = .ok entry := rfl
  have delivers : ∀ e c args, rt.registry.classNamed "Token" = .ok e → e.constructor = some c →
      c.native.code.DeliversIn ⟨args, none, rt.config.policy⟩ { heap := rt.heap } := by
    intro e c args found' present
    cases found.symm.trans found'
    obtain rfl : miscast.toConstructor Exhibit.token = c := Option.some.inj present
    exact miscast.delivers_code _ _
  obtain ⟨-, undoes, settles⟩ := construct_settles rt reachable op "Token" rfl delivers
  obtain ⟨h, returned, own, -⟩ | ⟨failed, -⟩ := settles _ entry (.object counter) rfl found rfl
  · cases returned
    exact absurd own (by decide +kernel)
  · refine ⟨reachable, rfl, delivers, failed, undoes fun r ok => ?_⟩
    cases failed.symm.trans ok

end Runtime

end NativeBridge
