import NativeBridge.Proofs.Native.Transcript
import NativeBridge.Wrapper

/-!
# Runs by their parts

Native code is made of small programs put together by `bind`. `Native.run_bind` and
`Native.transcript_bind` take the run of such a program apart, and there is one equation for each of
the small ones.

Converting arguments depends on the heap and does not change it : `Frame.arguments` is the outcome
of all conversions of a wrapper in order, and `Native.run_extract` says that it is all there is to
them.
-/

namespace NativeBridge

variable {C : Catalog} {α β : Type}

namespace Frame

/-- An argument as a native value. -/
def argument (f : Frame) (heap : Heap C) (index : Nat) (t : NativeType C) :
    Outcome NativeError t.Value :=
  match f.slot index with
  | .error e => .error e
  | .ok v => (t.fromHost f.policy heap v).mapError (.argument index)

/-- The arguments from the given index on, up to the first that does not convert. -/
def arguments (f : Frame) (heap : Heap C) :
    (ps : List (Parameter C)) → Nat → Outcome NativeError (Arguments ps)
  | [], _ => .ok ()
  | p :: ps, index =>
    (f.argument heap index p.type).bind fun a =>
      (f.arguments heap ps (index + 1)).bind fun rest => .ok (a, rest)

/-- The receiver as an instance of the given type. -/
def instance? (f : Frame) (heap : Heap C) (o : C.Obj) : Except NativeError (C.Instance o) :=
  match f.this with
  | .error e => .error e
  | .ok h => (heap.get o h).mapError .ofReceiver

end Frame

namespace Native

/-! ## Programs put together -/

/-- Goes on with the outcome of a run, if that is a value. -/
def resume (f : Frame) (k : α → Native C β) :
    Outcome NativeError α × Activation C → Outcome NativeError β × Activation C
  | (.ok a, s) => (k a).run f s
  | (.error e, s) => (.error e, s)
  | (.panic p, s) => (.panic p, s)

@[simp] theorem run_finish (o : Outcome NativeError α) (f : Frame) (s : Activation C) :
    (finish o : Native C α).run f s = (o, s) := rfl

@[simp] theorem run_pure (a : α) (f : Frame) (s : Activation C) :
    (pure a : Native C α).run f s = (.ok a, s) := rfl

/-- The second part runs where the first has left off, on what it has given. -/
theorem run_bind (m : Native C α) (k : α → Native C β) (f : Frame) (s : Activation C) :
    (m >>= k).run f s = resume f k (m.run f s) := by
  induction m generalizing s with
  | finish o => cases o <;> rfl
  | ask r g ih =>
    rcases hp : r.perform f s with ⟨p | a, s'⟩
    · rw [run_ask_of_panic hp]
      exact run_ask_of_panic hp
    · rw [run_ask_of_ok hp, ← ih a s']
      exact run_ask_of_ok hp

/-- A sequence succeeds if both of its parts do. -/
theorem run_bind_eq_ok_iff {m : Native C α} {k : α → Native C β} {f : Frame} {s s' : Activation C}
    {b : β} :
    (m >>= k).run f s = (.ok b, s') ↔
      ∃ a t, m.run f s = (.ok a, t) ∧ (k a).run f t = (.ok b, s') := by
  rw [run_bind]
  rcases m.run f s with ⟨a | cause | p, t⟩
  · refine ⟨fun rest => ⟨a, t, rfl, rest⟩, ?_⟩
    rintro ⟨a', t', same, rest⟩
    cases same
    exact rest
  · simp [resume]
  · simp [resume]

@[simp] theorem transcript_finish (o : Outcome NativeError α) (f : Frame) (s : Activation C) :
    (finish o : Native C α).transcript f s = [] := rfl

/-- The second part adds its exchanges, if it is reached. -/
theorem transcript_bind (m : Native C α) (k : α → Native C β) (f : Frame) (s : Activation C) :
    (m >>= k).transcript f s =
      m.transcript f s ++
        match m.run f s with
        | (.ok a, s') => (k a).transcript f s'
        | _ => [] := by
  induction m generalizing s with
  | finish o => cases o <;> rfl
  | ask r g ih =>
    rcases hp : r.perform f s with ⟨p | a, s'⟩
    · rw [run_ask_of_panic hp, transcript_ask_of_panic hp, List.append_nil]
      exact transcript_ask_of_panic hp
    · rw [run_ask_of_ok hp, transcript_ask_of_ok hp, List.cons_append, ← ih a s']
      exact transcript_ask_of_ok hp

/-! ## Small programs -/

variable (f : Frame) (s : Activation C)

theorem run_demand (answer : Except NativeError α) :
    (demand answer : Native C α).run f s = (.ofExcept answer, s) := by
  cases answer <;> rfl

theorem run_arg (index : Nat) (t : NativeType C) :
    (arg index t).run f s = (f.argument s.heap index t, s) := by
  simp only [arg, run, Request.perform, Frame.argument]
  cases f.slot index with
  | error e => rfl
  | ok v =>
    dsimp only
    cases t.fromHost f.policy s.heap v <;> rfl

theorem run_this (o : C.Obj) :
    (this o).run f s = (.ofExcept (f.instance? s.heap o), s) := by
  simp only [this, run, Request.perform, Frame.instance?]
  cases f.this with
  | error e => rfl
  | ok h => exact run_demand f s _

theorem run_thisMut (o : C.Obj) (change : C.Instance o → C.Instance o) :
    (thisMut o change).run f s =
      match f.this with
      | .error e => (.error e, s)
      | .ok h =>
        match s.heap.update o change h with
        | .ok (v, heap) => (.ok v, { s with heap })
        | .error e => (.error (.ofReceiver e), s) := by
  simp only [thisMut, run, Request.perform]
  cases f.this with
  | error e => rfl
  | ok h =>
    dsimp only
    cases s.heap.update o change h <;> rfl

theorem run_setReturn (t : NativeType C) (v : t.Value) :
    (setReturn t v).run f s =
      match t.toHost v s.heap with
      | .ok (result, heap) => (.ok (), { s with heap, result })
      | .error e => (.error (.result e), s) := by
  simp only [setReturn, run, Request.perform]
  cases t.toHost v s.heap <;> rfl

/-- A result is delivered if there is one and it can be handed to the host. -/
theorem run_deliver_eq_ok_iff {t : NativeType C} {o : Outcome String t.Value} {s' : Activation C} :
    (deliver t o).run f s = (.ok (), s') ↔
      ∃ v result heap, o = .ok v ∧ t.toHost v s.heap = .ok (result, heap) ∧
        s' = { s with heap, result } := by
  cases o with
  | error reason => simp [deliver, fail]
  | panic p => simp [deliver, panic]
  | ok v =>
    rw [deliver, run_setReturn]
    refine ⟨fun ended => ?_, ?_⟩
    · cases handed : t.toHost v s.heap with
      | error cause =>
        rw [handed] at ended
        cases ended
      | ok p =>
        rw [handed] at ended
        cases ended
        exact ⟨v, p.1, p.2, rfl, handed, rfl⟩
    · rintro ⟨w, result, heap, same, handed, rfl⟩
      cases same
      rw [handed]

/-- Converting the arguments is one function of the heap. By induction on the parameters. -/
theorem run_extract (ps : List (Parameter C)) (index : Nat) :
    (extract ps index).run f s = (f.arguments s.heap ps index, s) := by
  induction ps generalizing index with
  | nil => rfl
  | cons p ps ih =>
    rw [extract, run_bind, run_arg, Frame.arguments]
    cases f.argument s.heap index p.type with
    | error e => rfl
    | panic q => rfl
    | ok a =>
      rw [resume, run_bind, ih]
      cases f.arguments s.heap ps (index + 1) <;> rfl

end Native

end NativeBridge
