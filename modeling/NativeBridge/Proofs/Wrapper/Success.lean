import NativeBridge.Proofs.Wrapper.Failure

/-!
# Wrappers that succeed

Native code can issue a handle and then return something else, and nobody would ever hear of the
instance behind it. Wrappers do not : they set the return value once, at the end. The wrappers of
callables and getters are `Native.Candid`, that is, a run that succeeds has issued the handle that
it returns, if it returns one, and no other. Setters issue nothing and return nothing.
-/

namespace NativeBridge

variable {C : Catalog} {α : Type}

namespace Native

/-- Every run that succeeds has issued what it returns, and no other handle. -/
def Candid (m : Native C Unit) : Prop :=
  ∀ f s s', m.run f s = (.ok (), s') → (m.transcript f s).issued = s'.result.object?.toList

theorem issued_of_throughout {m : Native C α} (silent : m.Throughout fun e => e.issued? = none)
    (f : Frame) (s : Activation C) : (m.transcript f s).issued = [] :=
  List.filterMap_eq_nil_iff.2 (silent f s)

/-- What precedes candid code may do anything but issue handles. -/
theorem Throughout.bind_candid {m : Native C α} {k : α → Native C Unit}
    (first : m.Throughout fun e => e.issued? = none) (second : ∀ a, (k a).Candid) :
    (m >>= k).Candid := by
  intro f s s' ended
  obtain ⟨a, t, here, rest⟩ := run_bind_eq_ok_iff.1 ended
  rw [transcript_bind, Transcript.issued_append, issued_of_throughout first, here]
  exact second a f t s' rest

/-- Candour is asked of runs that succeed. -/
theorem candid_of_failing {m : Native C Unit} (fails : ∀ f s, (m.run f s).1 ≠ .ok ()) :
    m.Candid := by
  intro f s s' ended
  exact absurd (congrArg Prod.fst ended) (fails f s)

theorem candid_setReturn (t : NativeType C) (v : t.Value) : (setReturn t v).Candid := by
  intro f s s' ended
  rw [setReturn, transcript_ask transcript_demand, Transcript.issued_singleton]
  rw [run_setReturn] at ended
  cases handed : t.toHost v s.heap with
  | error e =>
    rw [handed] at ended
    cases ended
  | ok p =>
    rw [handed] at ended
    cases ended
    simp [Request.exchange, Request.perform, handed, Exchange.issued?]

/-- Of what wrappers are put together, only the return issues a handle, and it returns that. -/
theorem wrapping_candid :
    Wrapping (C := C) (fun _ => Throughout fun e => e.issued? = none) Candid :=
  { wrapping_tidy with
    last := Throughout.bind_candid
    ends := fun fails => candid_of_failing fun _ _ => fails () }

end Native

open Native

theorem Callable.candid_code (c : Callable C) : c.code.Candid :=
  wrapping_candid.code c (fun i p _ => throughout_arg i p.type fun _ _ => rfl)
    (fun o _ _ => tidy_thisMut o) (candid_setReturn c.returns)

theorem Property.candid_getter {o : C.Obj} (p : Property C o) : p.getter.Candid :=
  wrapping_candid.getter p (candid_setReturn p.type)

namespace Invoker

variable {inv : Invoker} {native : NativeFn C} {site : CallSite} {receiver : Option Handle}
  {args : List HostValue} {heap : Heap C}

/-- The handles that a call issues are those that it tells of, if its code is candid about them when
it succeeds and issues none when it fails. -/
theorem issued_transcript (candid : native.code.Candid) (tidy : native.code.Tidy) :
    (inv.transcript native site receiver args heap).issued =
      ((inv.invoke native site receiver args heap).outcome.value?.bind
        HostValue.object?).toList := by
  cases ended : (inv.invoke native site receiver args heap).outcome with
  | ok v =>
    obtain ⟨arity, ok, rfl⟩ := (invoke_eq_ok_iff ..).1 ended
    rw [transcript, if_pos arity]
    exact candid _ _ _ (Prod.ext ok rfl)
  | error e =>
    exact List.filterMap_eq_nil_iff.2 (mem_transcript_of_failure tidy (by simp [ended]))
  | panic p =>
    exact List.filterMap_eq_nil_iff.2 (mem_transcript_of_failure tidy (by simp [ended]))

end Invoker

end NativeBridge
