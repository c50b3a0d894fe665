import NativeBridge.Invoke
import NativeBridge.Proofs.Heap.Evolution

/-!
# What native code asks and hears

A run of native code is a series of exchanges : a request, its answer, and the activation after it.
`Native.transcript` lists those of a run, and the last of them says in which activation the run ends
(`Native.run_after`). `Invoker.transcript` is the transcript of a whole call, which is empty if the
arity check fails.

All that a run does to the heap goes through its exchanges, and each of them moves the heap in one
of three ways (`Exchange.Moves`). `Transcript.Leads` puts these moves together, and
`Native.run_leads` and `Invoker.invoke_leads` find them in every run and every call. In particular
the only handles that native code issues are those it sets as a return value
(`Transcript.Leads.evolves`).
-/

namespace NativeBridge

variable {C : Catalog} {α β : Type}

/-! ## Exchanges -/

/-- A request with its answer and the activation after it. -/
structure Exchange (C : Catalog) where
  request : Request C
  answer : Except Payload request.Answer
  after : Activation C

/-- Exchanges in order. -/
abbrev Transcript (C : Catalog) := List (Exchange C)

/-- The exchange of a request in an activation. -/
def Request.exchange (f : Frame) (r : Request C) (s : Activation C) : Exchange C :=
  ⟨r, (r.perform f s).1, (r.perform f s).2⟩

namespace Exchange

/-- The handle of the object that has become the return value. -/
def issued? : Exchange C → Option Handle
  | ⟨.setReturn _ _, .ok (.ok _), s⟩ => s.result.object?
  | _ => none

/-- The code has got its receiver for changing. -/
def changes : Exchange C → Bool
  | ⟨.thisMut _ _, .ok (.ok _), _⟩ => true
  | _ => false

end Exchange

namespace Transcript

/-- The handles issued, in order. -/
def issued (t : Transcript C) : List Handle := t.filterMap Exchange.issued?

/-- The code has got its receiver for changing at least once. -/
def changes (t : Transcript C) : Bool := t.any Exchange.changes

@[simp] theorem issued_append (t u : Transcript C) : issued (t ++ u) = t.issued ++ u.issued :=
  List.filterMap_append

@[simp] theorem changes_append (t u : Transcript C) : changes (t ++ u) = (t.changes || u.changes) :=
  List.any_append

@[simp] theorem issued_singleton (e : Exchange C) : issued [e] = e.issued?.toList := by
  cases he : e.issued? <;> simp [issued, he]

@[simp] theorem changes_singleton (e : Exchange C) : changes [e] = e.changes := by
  simp [changes]

theorem changes_eq_false_iff {t : Transcript C} :
    t.changes = false ↔ ∀ e ∈ t, e.changes = false := by
  simp [changes]

end Transcript

namespace Native

/-- The exchanges of a run. -/
def transcript (f : Frame) : Native C α → Activation C → Transcript C
  | finish _, _ => []
  | ask r k, s =>
    r.exchange f s ::
      match (r.perform f s).1 with
      | .ok a => (k a).transcript f (r.perform f s).2
      | .error _ => []

end Native

namespace Invoker

/-- The exchanges of a call. -/
def transcript (inv : Invoker) (native : NativeFn C) (site : CallSite) (receiver : Option Handle)
    (args : List HostValue) (heap : Heap C) : Transcript C :=
  if args.length = site.params.length then
    native.code.transcript ⟨args, receiver, inv.policy⟩ { heap }
  else []

end Invoker

/-! ## Runs by their first exchange -/

namespace Native

variable {f : Frame} {r : Request C} {k : r.Answer → Native C α} {s s' : Activation C}

theorem run_ask_of_ok {a : r.Answer} (h : r.perform f s = (.ok a, s')) :
    (ask r k).run f s = (k a).run f s' := by
  rw [run, h]

theorem run_ask_of_panic {p : Payload} (h : r.perform f s = (.error p, s')) :
    (ask r k).run f s = (.panic p, s') := by
  rw [run, h]

theorem transcript_ask_of_ok {a : r.Answer} (h : r.perform f s = (.ok a, s')) :
    (ask r k).transcript f s = r.exchange f s :: (k a).transcript f s' := by
  rw [transcript, h]

theorem transcript_ask_of_panic {p : Payload} (h : r.perform f s = (.error p, s')) :
    (ask r k).transcript f s = [r.exchange f s] := by
  rw [transcript, h]

/-- A run ends in the activation after its last exchange. -/
theorem run_after (code : Native C α) (f : Frame) (s : Activation C) :
    (code.run f s).2 = ((code.transcript f s).getLast?.map Exchange.after).getD s := by
  induction code generalizing s with
  | finish o => rfl
  | ask r k ih =>
    rcases hp : r.perform f s with ⟨p | a, s'⟩
    · rw [run_ask_of_panic hp, transcript_ask_of_panic hp]
      simp [Request.exchange, hp]
    · rw [run_ask_of_ok hp, transcript_ask_of_ok hp, ih, List.getLast?_cons]
      cases (k a).transcript f s' with
      | nil => simp [Request.exchange, hp]
      | cons e t => simp [List.getLast?_cons]

end Native

/-! ## What exchanges do to the heap -/

namespace NativeType

/-- Handing a value out leaves the heap as it is, or moves one instance into it. -/
theorem toHost_eq_ok {heap heap' : Heap C} {result : HostValue} :
    (t : NativeType C) → (v : t.Value) → t.toHost v heap = .ok (result, heap') →
      (heap' = heap ∧ result.object? = none) ∨
        ∃ o w k, heap.allocate o w = .ok (k, heap') ∧ result = .object k
  | int w, v, h => by
    unfold toHost at h
    split at h <;> cases h
    exact Or.inl ⟨rfl, rfl⟩
  | f64, v, h | f32, v, h | bool, v, h | str, v, h | unit, v, h => by
    cases h
    exact Or.inl ⟨rfl, rfl⟩
  | option t, none, h => by
    cases h
    exact Or.inl ⟨rfl, rfl⟩
  | option t, some v, h => toHost_eq_ok t v h
  | object o, v, h => by
    unfold toHost at h
    cases ha : heap.allocate o v with
    | error e =>
      rw [ha] at h
      cases h
    | ok p =>
      rw [ha] at h
      cases h
      exact Or.inr ⟨o, v, p.1, ha, rfl⟩

end NativeType

/-- What an exchange does to the heap before it : nothing, or it changes the receiver, or it moves
an instance into the heap and sets it as the return value. -/
inductive Exchange.Moves (receiver : Option Handle) (heap : Heap C) (e : Exchange C) : Prop
  | still (same : e.after.heap = heap) (issued : e.issued? = none) (changes : e.changes = false)
  | changed {o : C.Obj} {change : C.Instance o → C.Instance o} {h : Handle} {v : C.Instance o}
      (named : receiver = some h) (update : heap.update o change h = .ok (v, e.after.heap))
      (issued : e.issued? = none) (changes : e.changes = true)
  | issued {o : C.Obj} {v : C.Instance o} {k : Handle}
      (allocate : heap.allocate o v = .ok (k, e.after.heap)) (issued : e.issued? = some k)
      (changes : e.changes = false)

namespace Request

variable (f : Frame) (s : Activation C)

/-- Converting an argument changes nothing. -/
theorem perform_arg_after (index : Nat) (t : NativeType C) : ((arg index t).perform f s).2 = s := by
  simp only [perform]
  split
  · rfl
  · split <;> rfl

/-- Reading the receiver changes nothing. -/
theorem perform_this_after (o : C.Obj) : ((this o).perform f s).2 = s := by
  simp only [perform]
  split <;> rfl

/-- A change moves the heap by an update of the receiver, if there is one. -/
theorem thisMut_moves (o : C.Obj) (change : C.Instance o → C.Instance o) :
    ((thisMut o change).exchange f s).Moves f.receiver s.heap := by
  cases hr : f.receiver with
  | none =>
    have hp : (thisMut o change).perform f s =
        (.ok (.error (.invalidReceiver "call has no receiver")), s) := by
      simp [perform, Frame.this, hr]
    rw [exchange, hp]
    exact .still rfl rfl rfl
  | some h =>
    cases hu : s.heap.update o change h with
    | error e =>
      have hp : (thisMut o change).perform f s = (.ok (.error (.ofReceiver e)), s) := by
        simp [perform, Frame.this, hr, hu]
      rw [exchange, hp]
      exact .still rfl rfl rfl
    | ok p =>
      have hp : (thisMut o change).perform f s = (.ok (.ok p.1), { s with heap := p.2 }) := by
        simp [perform, Frame.this, hr, hu]
      rw [exchange, hp]
      exact .changed rfl hu rfl rfl

/-- A return moves the heap by an allocation, if it is of an instance. -/
theorem setReturn_moves (t : NativeType C) (v : t.Value) :
    ((setReturn t v).exchange f s).Moves f.receiver s.heap := by
  cases ht : t.toHost v s.heap with
  | error e =>
    have hp : (setReturn t v).perform f s = (.ok (.error (.result e)), s) := by
      simp [perform, ht]
    rw [exchange, hp]
    exact .still rfl rfl rfl
  | ok p =>
    obtain ⟨result, heap⟩ := p
    have hp : (setReturn t v).perform f s = (.ok (.ok ()), { s with heap, result }) := by
      simp [perform, ht]
    rw [exchange, hp]
    obtain ⟨rfl, hn⟩ | ⟨o, w, k, ha, rfl⟩ := t.toHost_eq_ok v ht
    · exact .still rfl hn rfl
    · exact .issued ha rfl rfl

/-- Every request moves the heap in one of the three ways. -/
theorem exchange_moves (r : Request C) : (r.exchange f s).Moves f.receiver s.heap := by
  cases r with
  | argCount => exact .still rfl rfl rfl
  | outline => exact .still rfl rfl rfl
  | slot index => exact .still rfl rfl rfl
  | arg index t => exact .still (congrArg Activation.heap (perform_arg_after f s index t)) rfl rfl
  | this o => exact .still (congrArg Activation.heap (perform_this_after f s o)) rfl rfl
  | thisMut o change => exact thisMut_moves f s o change
  | setReturn t v => exact setReturn_moves f s t v
  | note n => exact .still rfl rfl rfl

end Request

/-! ## What transcripts do to the heap -/

namespace Transcript

/-- The exchanges lead from the first heap to the last, each by the way it moves the heap. -/
inductive Leads (receiver : Option Handle) : Heap C → Transcript C → Heap C → Prop
  | nil (heap : Heap C) : Leads receiver heap [] heap
  | cons {a b : Heap C} {e : Exchange C} {t : Transcript C} :
      e.Moves receiver a → Leads receiver e.after.heap t b → Leads receiver a (e :: t) b

/-- A transcript issues the handles that are set as a return value, and no others. -/
theorem Leads.evolves {receiver : Option Handle} {a b : Heap C} {t : Transcript C}
    (leads : Leads receiver a t b) : Heap.Evolves a t.issued b := by
  induction leads with
  | nil heap => exact .refl heap
  | cons moves _ ih =>
    rw [← List.singleton_append, issued_append, issued_singleton]
    refine Heap.Evolves.trans ?_ ih
    cases moves with
    | still same issued =>
      rw [same, issued]
      exact .refl _
    | changed _ update issued =>
      rw [issued]
      exact .update (.refl _) update
    | issued allocate issued =>
      rw [issued]
      exact .allocate (.refl _) allocate

/-- Exchanges that change and issue nothing leave the heap as it is. -/
theorem Leads.eq_of_still {receiver : Option Handle} {a b : Heap C} {t : Transcript C}
    (leads : Leads receiver a t b) (issued : ∀ e ∈ t, e.issued? = none)
    (changes : t.changes = false) : b = a := by
  induction leads with
  | nil heap => rfl
  | @cons a b e t moves _ ih =>
    rw [← List.singleton_append, changes_append, changes_singleton, Bool.or_eq_false_iff] at changes
    rw [ih (fun e' he' => issued e' (List.mem_cons_of_mem _ he')) changes.2]
    cases moves with
    | still same => exact same
    | changed _ _ _ changed => exact absurd changed (by simp [changes.1])
    | issued _ named => exact absurd named (by simp [issued e List.mem_cons_self])

/-- Exchanges that issue nothing change the receiver only. -/
theorem Leads.put_of_changes {receiver : Option Handle} {a b : Heap C} {t : Transcript C}
    (leads : Leads receiver a t b) (issued : ∀ e ∈ t, e.issued? = none)
    (changes : t.changes = true) :
    ∃ h x v, receiver = some h ∧ a.occupant? h = some x ∧
      b = a.put h { x with value := v, mutated := true } := by
  induction leads with
  | nil heap => cases changes
  | @cons a b e t moves rest ih =>
    have issued' : ∀ e' ∈ t, e'.issued? = none :=
      fun e' he' => issued e' (List.mem_cons_of_mem _ he')
    cases moves with
    | still same _ unchanged =>
      rw [← List.singleton_append, changes_append, changes_singleton, unchanged] at changes
      rw [← same]
      exact ih issued' changes
    | issued _ named => exact absurd named (by simp [issued e List.mem_cons_self])
    | @changed o change h v named update =>
      obtain ⟨x, live, typed, heap⟩ := Heap.update_eq_ok_iff.1 update
      rw [Occupant.as?_eq_some_iff.1 typed] at live
      cases later : t.changes with
      | false =>
        rw [rest.eq_of_still issued' later, heap]
        exact ⟨h, ⟨o, v, x.holders, x.mutated⟩, change v, named, live, rfl⟩
      | true =>
        obtain ⟨h', y, w, named', live', rfl⟩ := ih issued' later
        obtain rfl : h = h' := Option.some.inj (named.symm.trans named')
        rw [heap, Heap.occupant?_put live, if_pos rfl] at live'
        cases live'
        rw [heap, Heap.put_put]
        exact ⟨h, ⟨o, v, x.holders, x.mutated⟩, w, named, live, rfl⟩

end Transcript

/-- By induction on the code, one exchange at a time. -/
theorem Native.run_leads (code : Native C α) (f : Frame) (s : Activation C) :
    (code.transcript f s).Leads f.receiver s.heap (code.run f s).2.heap := by
  induction code generalizing s with
  | finish o => exact .nil s.heap
  | ask r k ih =>
    have moves := r.exchange_moves f s
    rcases hp : r.perform f s with ⟨p | a, s'⟩
    · rw [run_ask_of_panic hp, transcript_ask_of_panic hp]
      refine .cons moves ?_
      rw [Request.exchange, hp]
      exact .nil s'.heap
    · rw [run_ask_of_ok hp, transcript_ask_of_ok hp]
      refine .cons moves ?_
      rw [Request.exchange, hp]
      exact ih a s'

namespace Invoker

variable (inv : Invoker) (native : NativeFn C) (site : CallSite) (receiver : Option Handle)
  (args : List HostValue) (heap : Heap C)

/-- The heap after a call is the one in which the code leaves it. -/
theorem invoke_heap :
    (inv.invoke native site receiver args heap).heap =
      if args.length = site.params.length then
        (native.code.run ⟨args, receiver, inv.policy⟩ { heap }).2.heap
      else heap := by
  unfold invoke
  split <;> rfl

/-- A call succeeds if the number of arguments is right and its code succeeds, and then with the
return value that the code has set last. -/
theorem invoke_eq_ok_iff {v : HostValue} :
    (inv.invoke native site receiver args heap).outcome = .ok v ↔
      args.length = site.params.length ∧
        (native.code.run ⟨args, receiver, inv.policy⟩ { heap }).1 = .ok () ∧
        (native.code.run ⟨args, receiver, inv.policy⟩ { heap }).2.result = v := by
  unfold invoke call
  by_cases arity : args.length = site.params.length
  · simp only [arity, if_true, true_and]
    rcases native.code.run ⟨args, receiver, inv.policy⟩ { heap } with ⟨_ | _ | _, s⟩
    · cases inv.catchPanics <;> simp [Outcome.contain, Outcome.bind, Outcome.mapError]
    · cases inv.catchPanics <;> simp [Outcome.contain, Outcome.bind, Outcome.mapError]
    · cases inv.catchPanics <;> simp [Outcome.contain, Outcome.bind, Outcome.mapError]
  · simp [arity]

/-- The exchanges of a call lead from the heap before it to the one after it, also when it fails or
panics. -/
theorem invoke_leads :
    (inv.transcript native site receiver args heap).Leads receiver heap
      (inv.invoke native site receiver args heap).heap := by
  rw [invoke_heap, transcript]
  split
  · exact native.code.run_leads ⟨args, receiver, inv.policy⟩ { heap }
  · exact .nil heap

end Invoker

end NativeBridge
