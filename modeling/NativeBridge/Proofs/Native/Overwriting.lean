import NativeBridge.Proofs.Marshal.ReadBack
import NativeBridge.Proofs.Native.Conduct

/-!
# Native code beside an overwritten instance

Native code sees of the heap its receiver and what is behind its arguments, and nothing else. If
another live instance is overwritten (`Frame.Beside`), before the code runs or after it, the code does
the same and says the same (`Native.run_put`), and so does its call (`Invoker.invoke_put`).
-/

namespace NativeBridge

variable {C : Catalog}

/-- The activation with another instance in the slot of a handle. -/
def Activation.put (s : Activation C) (h : Handle) (y : Occupant C) : Activation C :=
  { s with heap := s.heap.put h y }

/-- Neither the receiver nor an argument names the tenancy of the handle. -/
structure Frame.Beside (f : Frame) (h : Handle) : Prop where
  args : ∀ k, .object k ∈ f.args → k.tenancy ≠ h.tenancy
  receiver : ∀ k ∈ f.receiver, k.tenancy ≠ h.tenancy

variable {f : Frame} {s : Activation C} {h : Handle} {x : Occupant C}

/-- The arguments of a call beside an instance do not name it. -/
theorem Frame.Beside.slot {index : Nat} {v : HostValue} (beside : f.Beside h)
    (given : f.slot index = .ok v) : ∀ k, v = .object k → k.tenancy ≠ h.tenancy := by
  rintro k rfl
  unfold Frame.slot at given
  split at given
  next there =>
    cases given
    exact beside.args k (List.mem_of_getElem? there)
  next => cases given

/-- One request. -/
theorem Request.perform_put (wf : s.heap.WellFormed) (live : s.heap.occupant? h = some x)
    (y : Occupant C) (beside : f.Beside h) (r : Request C) :
    r.perform f (s.put h y) = ((r.perform f s).1, (r.perform f s).2.put h y) := by
  cases r with
  | argCount | outline | slot | note => rfl
  | arg index t =>
    rw [perform, perform]
    cases given : f.slot index with
    | error e => rfl
    | ok v =>
      have same : t.fromHost f.policy (s.put h y).heap v = t.fromHost f.policy s.heap v :=
        t.fromHost_put_of_ne live y (beside.slot given) f.policy
      dsimp only
      rw [same]
      cases t.fromHost f.policy s.heap v <;> rfl
  | this o =>
    cases named : f.receiver with
    | none => simp [perform, Frame.this, named]
    | some k =>
      have same : (s.put h y).heap.get o k = s.heap.get o k :=
        Heap.get_put_of_ne live y (beside.receiver k named)
      simp [perform, Frame.this, named, same]
  | thisMut o change =>
    cases named : f.receiver with
    | none => simp [perform, Frame.this, named]
    | some k =>
      have same := Heap.update_put live y (beside.receiver k named) change
      simp only [perform, Frame.this, named, Activation.put, same]
      cases s.heap.update o change k <;> rfl
  | setReturn t v =>
    have same : t.toHost v (s.put h y).heap = _ := t.toHost_put wf live y v
    simp only [perform, same]
    cases t.toHost v s.heap <;> rfl

/-- By induction on the code. The instance stays live, for nothing but the receiver changes. -/
theorem Native.run_put {α : Type} (code : Native C α) (wf : s.heap.WellFormed)
    (live : s.heap.occupant? h = some x) (y : Occupant C) (beside : f.Beside h) :
    code.run f (s.put h y) = ((code.run f s).1, (code.run f s).2.put h y) := by
  induction code generalizing s with
  | finish o => rfl
  | ask r k ih =>
    have moves := r.exchange_moves f s
    have first : Transcript.Leads f.receiver s.heap [r.exchange f s] (r.exchange f s).after.heap :=
      .cons moves (.nil _)
    have live' := (moves.conduct wf).others h x live beside.receiver
    have step := r.perform_put wf live y beside
    rcases hp : r.perform f s with ⟨p | a, s'⟩
    · rw [hp] at step
      rw [run_ask_of_panic hp, run_ask_of_panic step]
    · rw [hp] at step
      rw [run_ask_of_ok hp, run_ask_of_ok step]
      rw [Request.exchange, hp] at first live'
      exact ih a (first.evolves.wellFormed wf) live'

/-- A call beside an instance does not notice that it is replaced. -/
theorem Invoker.invoke_put {heap : Heap C} {receiver : Option Handle} {args : List HostValue}
    (inv : Invoker) (native : NativeFn C) (site : CallSite) (wf : heap.WellFormed)
    (live : heap.occupant? h = some x) (y : Occupant C)
    (beside : Frame.Beside ⟨args, receiver, inv.policy⟩ h) :
    inv.invoke native site receiver args (heap.put h y) =
      { inv.invoke native site receiver args heap with
        heap := (inv.invoke native site receiver args heap).heap.put h y } := by
  have ran : native.code.run ⟨args, receiver, inv.policy⟩ { heap := heap.put h y } = _ :=
    native.code.run_put (s := { heap }) wf live y beside
  unfold invoke call
  by_cases arity : args.length = site.params.length
  · simp only [if_pos arity, ran]
    rfl
  · simp only [if_neg arity]

end NativeBridge
