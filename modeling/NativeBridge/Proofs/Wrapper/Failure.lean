import NativeBridge.Proofs.Native.Run

/-!
# Wrappers that fail

A wrapper converts its arguments, then reaches its receiver, and sets the return value last. So
when it fails, no handle has been issued, and if it fails before it gets its receiver for changing,
nothing has happened at all.

`Native.Throughout` and `Native.OnFailure` say that every exchange of a program has a property,
always or if the program fails; both are put together along `bind`. What is put together so can be
shown of all wrappers part by part (`Native.Wrapping`). The wrappers of callables, getters and setters
are `Tidy` : they issue nothing when they fail. They are `Steady` too, that is they do not get the
receiver for changing when they fail, unless the callable is `changing`.
-/

namespace NativeBridge

variable {C : Catalog} {α β : Type}

namespace Native

variable {P : Exchange C → Prop} {m : Native C α} {k : α → Native C β}

/-! ## Properties of all exchanges -/

/-- Every exchange of every run has the property. -/
def Throughout (P : Exchange C → Prop) (m : Native C α) : Prop :=
  ∀ f s, ∀ e ∈ m.transcript f s, P e

/-- Every exchange of every run that does not succeed has the property. -/
def OnFailure (P : Exchange C → Prop) (m : Native C α) : Prop :=
  ∀ f s, (∀ a, (m.run f s).1 ≠ .ok a) → ∀ e ∈ m.transcript f s, P e

theorem Throughout.onFailure (h : m.Throughout P) : m.OnFailure P := fun f s _ => h f s

theorem throughout_finish (o : Outcome NativeError α) : (finish o).Throughout P := by
  intro f s e he
  cases he

theorem throughout_pure (a : α) : (pure a : Native C α).Throughout P := throughout_finish (.ok a)

/-- What holds throughout two steps holds throughout both of them together. -/
theorem Throughout.bind (first : m.Throughout P) (second : ∀ a, (k a).Throughout P) :
    (m >>= k).Throughout P := by
  intro f s e he
  rw [transcript_bind] at he
  rcases List.mem_append.1 he with he | he
  · exact first f s e he
  · split at he
    · exact second _ f _ e he
    · cases he

/-- What follows a program counts for nothing if it never gets the receiver for changing. -/
theorem changes_bind (second : ∀ a, (k a).Throughout fun e => e.changes = false) (f : Frame)
    (s : Activation C) : ((m >>= k).transcript f s).changes = (m.transcript f s).changes := by
  rw [transcript_bind, Transcript.changes_append]
  rcases m.run f s with ⟨a | cause | p, s'⟩
  · simp [Transcript.changes_eq_false_iff.2 (second a f s')]
  · simp [Transcript.changes]
  · simp [Transcript.changes]

/-- A sequence fails in its first part, which has the property throughout, or in its second. -/
theorem Throughout.bind_onFailure (first : m.Throughout P) (second : ∀ a, (k a).OnFailure P) :
    (m >>= k).OnFailure P := by
  intro f s failed e he
  rw [run_bind] at failed
  rw [transcript_bind] at he
  rcases List.mem_append.1 he with he | he
  · exact first f s e he
  · split at he
    next a s' hr =>
      rw [hr] at failed
      exact second a f s' failed e he
    · cases he

/-- A program that fails only if its first part does. -/
theorem OnFailure.bind_pure (first : m.OnFailure P) (g : α → β) :
    (m >>= fun a => pure (g a)).OnFailure P := by
  intro f s failed e he
  rw [run_bind] at failed
  rw [transcript_bind] at he
  rcases List.mem_append.1 he with he | he
  · refine first f s (fun a ok => ?_) e he
    rcases hr : m.run f s with ⟨o, s'⟩
    rw [hr] at ok failed
    cases ok
    exact failed (g a) rfl
  · split at he <;> cases he

/-- A request whose answer is taken as it is. -/
theorem transcript_ask {r : Request C} {k : r.Answer → Native C α}
    (silent : ∀ a f s, (k a).transcript f s = []) (f : Frame) (s : Activation C) :
    (ask r k).transcript f s = [r.exchange f s] := by
  rcases hp : r.perform f s with ⟨p | a, s'⟩
  · exact transcript_ask_of_panic hp
  · rw [transcript_ask_of_ok hp, silent]

theorem transcript_demand (x : Except NativeError α) (f : Frame) (s : Activation C) :
    (demand x : Native C α).transcript f s = [] := by
  cases x <;> rfl

/-- Where no other request follows, only the one that is made counts. -/
theorem throughout_ask {r : Request C} {k : r.Answer → Native C α}
    (silent : ∀ a f s, (k a).transcript f s = []) (h : ∀ f s, P (r.exchange f s)) :
    (ask r k).Throughout P := by
  intro f s e he
  rw [transcript_ask silent, List.mem_singleton] at he
  exact he ▸ h f s

theorem throughout_arg (index : Nat) (t : NativeType C)
    (h : ∀ f s, P ((Request.arg index t).exchange f s)) : (arg index t).Throughout P :=
  throughout_ask transcript_demand h

theorem throughout_this (o : C.Obj) (h : ∀ f s, P ((Request.this o).exchange f s)) :
    (this o).Throughout P :=
  throughout_ask transcript_demand h

theorem throughout_ofClone (copy : Except Payload α) : (ofClone copy : Native C α).Throughout P := by
  cases copy <;> exact throughout_finish _

/-! ## Wrappers part by part -/

/-- The property can be shown of what comes before the end of a wrapper : of requests for the
receiver, of copies, and of a sequence of parts if each of them has it. -/
structure Preparations (First : (α : Type) → Native C α → Prop) : Prop where
  pure : ∀ {α} (a : α), First α (pure a)
  bind : ∀ {α β} {m : Native C α} {k : α → Native C β}, First α m → (∀ a, First β (k a)) →
    First β (m >>= k)
  this : ∀ o, First _ (this o)
  ofClone : ∀ {α} (copy : Except Payload α), First α (ofClone copy)

/-- With a property of what comes before the end, another one can be shown of the whole wrapper. -/
structure Wrapping (First : (α : Type) → Native C α → Prop) (Last : Native C Unit → Prop) : Prop
    extends Preparations First where
  last : ∀ {α} {m : Native C α} {k : α → Native C Unit}, First α m → (∀ a, Last (k a)) →
    Last (m >>= k)
  ends : ∀ {o : Outcome NativeError Unit}, (∀ a, o ≠ .ok a) → Last (finish o)

section Parts

variable {First : (α : Type) → Native C α → Prop} {Last : Native C Unit → Prop}

/-- By induction on the parameters that are left. -/
theorem Preparations.extract (preparations : Preparations First) (before ps : List (Parameter C))
    (args : ∀ i p, (before ++ ps)[i]? = some p → First _ (arg i p.type)) :
    First _ (extract ps before.length) := by
  induction ps generalizing before with
  | nil => exact preparations.pure ()
  | cons p ps ih =>
    have here : (before ++ p :: ps)[before.length]? = some p := by simp
    have rest := ih (before ++ [p])
    rw [List.length_append, List.length_singleton, List.append_assoc] at rest
    exact preparations.bind (args _ p here) fun a =>
      preparations.bind (rest args) fun as => preparations.pure (a, as)

/-- Setters end without a return value. -/
theorem Preparations.setter (preparations : Preparations First) {o : C.Obj} (p : Property C o)
    (set : p.type.Value → C.Instance o → C.Instance o) (arg : First _ (arg 0 p.type))
    (changes : ∀ change, First _ (thisMut o change)) : First _ (p.setter set) :=
  preparations.bind arg fun value =>
    preparations.bind (changes (set value)) fun _ => preparations.pure ()

variable (wrapping : Wrapping First Last)

include wrapping

theorem Wrapping.deliver {t : NativeType C} (sets : ∀ v, Last (setReturn t v))
    (o : Outcome String t.Value) : Last (deliver t o) := by
  cases o with
  | ok v => exact sets v
  | error reason => exact wrapping.ends nofun
  | panic p => exact wrapping.ends nofun

/-- A wrapper is put together from extractions, a change of the receiver, and the return of a value.
What holds of these holds of it. -/
theorem Wrapping.code (c : Callable C)
    (args : ∀ i p, c.params[i]? = some p → First _ (arg i p.type))
    (changes : ∀ o g, c.body = .changing o g → ∀ change, First _ (thisMut o change))
    (sets : ∀ v, Last (setReturn c.returns v)) : Last c.code := by
  obtain ⟨params, returns, body⟩ := c
  have delivered := wrapping.deliver sets
  refine wrapping.last (wrapping.extract [] params args) fun args => ?_
  cases body with
  | free g => exact delivered (g args)
  | reading o g => exact wrapping.last (wrapping.this o) fun self => delivered (g self args)
  | copying o g =>
    exact wrapping.last (wrapping.this o) fun self =>
      wrapping.last (wrapping.ofClone (C.clone o self)) fun copy => delivered (g copy args)
  | changing o g =>
    exact wrapping.last (changes o g rfl _) fun self => delivered (g self args).2

theorem Wrapping.getter {o : C.Obj} (p : Property C o) (sets : ∀ v, Last (setReturn p.type v)) :
    Last p.getter :=
  wrapping.last (wrapping.this o) fun self =>
    wrapping.last (wrapping.ofClone (p.type.clone (p.get self))) sets

end Parts

/-- What every exchange of the parts has, every exchange of the whole has. -/
theorem wrapping_throughout (this : ∀ o f s, P ((Request.this o).exchange f s)) :
    Wrapping (fun _ => Throughout P) (Throughout P) where
  pure := throughout_pure
  bind := Throughout.bind
  this o := throughout_this o (this o)
  ofClone := throughout_ofClone
  last := Throughout.bind
  ends _ := throughout_finish _

/-! ## Tidy and steady programs -/

/-- The program issues no handle if it fails. -/
def Tidy (m : Native C α) : Prop := m.OnFailure fun e => e.issued? = none

/-- The program does not get its receiver for changing if it fails. -/
def Steady (m : Native C α) : Prop := m.OnFailure fun e => e.changes = false

/-- A return that fails has issued nothing. -/
theorem tidy_setReturn (t : NativeType C) (v : t.Value) : (setReturn t v).Tidy := by
  intro f s failed e he
  rw [setReturn, transcript_ask transcript_demand, List.mem_singleton] at he
  subst he
  rw [run_setReturn] at failed
  cases ht : t.toHost v s.heap with
  | ok p =>
    rw [ht] at failed
    exact absurd rfl (failed ())
  | error cause => simp [Request.exchange, Request.perform, ht, Exchange.issued?]

theorem steady_setReturn (t : NativeType C) (v : t.Value) :
    (setReturn t v).Throughout fun e => e.changes = false :=
  throughout_ask transcript_demand fun _ _ => rfl

theorem tidy_thisMut (o : C.Obj) (change : C.Instance o → C.Instance o) :
    (thisMut o change).Throughout fun e => e.issued? = none :=
  throughout_ask transcript_demand fun _ _ => rfl

/-- A change of the receiver that fails has changed nothing. -/
theorem steady_thisMut (o : C.Obj) (change : C.Instance o → C.Instance o) :
    (thisMut o change).Steady := by
  intro f s failed e he
  rw [thisMut, transcript_ask transcript_demand, List.mem_singleton] at he
  subst he
  rw [run_thisMut] at failed
  cases ht : f.this with
  | error cause => simp [Request.exchange, Request.perform, ht, Exchange.changes]
  | ok h =>
    cases hu : s.heap.update o change h with
    | error cause => simp [Request.exchange, Request.perform, ht, hu, Exchange.changes]
    | ok p =>
      simp only [ht, hu] at failed
      exact absurd rfl (failed p.1)

/-- A request for the receiver is answered if there is a receiver of the wanted type. -/
theorem changes_thisMut_iff (o : C.Obj) (change : C.Instance o → C.Instance o) (f : Frame)
    (s : Activation C) :
    ((Request.thisMut o change).exchange f s).changes = true ↔
      ∃ h v, f.receiver = some h ∧ s.heap.get o h = .ok v := by
  cases hr : f.receiver with
  | none => simp [Request.exchange, Request.perform, Frame.this, hr, Exchange.changes]
  | some h =>
    cases hx : s.heap.occupant? h with
    | none =>
      simp [Request.exchange, Request.perform, Frame.this, hr, Heap.update_of_stale hx,
        Heap.get_of_stale hx, Exchange.changes]
    | some x =>
      cases hv : x.as? o with
      | none =>
        simp [Request.exchange, Request.perform, Frame.this, hr, Heap.update_of_wrongType hx hv,
          Heap.get_of_wrongType hx hv, Exchange.changes]
      | some v =>
        simp [Request.exchange, Request.perform, Frame.this, hr, Heap.update_of_live hx hv,
          Heap.get_of_live hx hv, Exchange.changes]

/-- Of what wrappers are put together, only the last step issues anything. -/
theorem wrapping_tidy : Wrapping (C := C) (fun _ => Throughout fun e => e.issued? = none) Tidy :=
  { wrapping_throughout fun _ _ _ => rfl with
    last := Throughout.bind_onFailure
    ends := fun _ => (throughout_finish _).onFailure }

/-- Of what wrappers are put together, only the change of the receiver changes anything. -/
theorem wrapping_steady :
    Wrapping (C := C) (fun _ => Throughout fun e => e.changes = false)
      (Throughout fun e => e.changes = false) :=
  wrapping_throughout fun _ _ _ => rfl

/-! ## Wrappers -/

end Native

/-- The exchanges of a call that fails are those of a run that fails, or there are none. -/
theorem Invoker.mem_transcript_of_failure {P : Exchange C → Prop} {inv : Invoker}
    {native : NativeFn C} {site : CallSite} {receiver : Option Handle} {args : List HostValue}
    {heap : Heap C} (holds : native.code.OnFailure P)
    (failed : ∀ v, (inv.invoke native site receiver args heap).outcome ≠ .ok v) :
    ∀ e ∈ inv.transcript native site receiver args heap, P e := by
  intro e he
  unfold transcript at he
  split at he
  next arity =>
    refine holds _ _ (fun a ok => ?_) e he
    exact failed _ ((inv.invoke_eq_ok_iff native site receiver args heap).2 ⟨arity, ok, rfl⟩)
  next => cases he

namespace Callable

open Native

/-- A callable issues nothing if it fails. -/
theorem tidy_code (c : Callable C) : c.code.Tidy :=
  wrapping_tidy.code c (fun i p _ => throughout_arg i p.type fun _ _ => rfl)
    (fun o _ _ => tidy_thisMut o) (tidy_setReturn c.returns)

/-- A callable that does not take its receiver for changing never gets it so. -/
theorem steady_code (c : Callable C) (spares : ∀ o g, c.body ≠ .changing o g) :
    c.code.Throughout fun e => e.changes = false :=
  wrapping_steady.code c (fun i p _ => throughout_arg i p.type fun _ _ => rfl)
    (fun o g same => absurd same (spares o g)) (steady_setReturn c.returns)

/-- The body of a callable gets the receiver for changing if all arguments convert and the receiver
is an instance of its type, and not otherwise. -/
theorem changes_code_iff (c : Callable C) (f : Frame) (s : Activation C) :
    (c.code.transcript f s).changes = true ↔
      ∃ o g args h v, c.body = .changing o g ∧ f.arguments s.heap c.params 0 = .ok args ∧
        f.receiver = some h ∧ s.heap.get o h = .ok v := by
  by_cases spares : ∀ o g, c.body ≠ .changing o g
  · rw [Transcript.changes_eq_false_iff.2 (c.steady_code spares f s)]
    simp [spares]
  obtain ⟨params, returns, body⟩ := c
  cases body with
  | free | reading | copying => exact absurd nofun spares
  | changing o g =>
    have extracted : ((extract params 0).transcript f s).changes = false :=
      Transcript.changes_eq_false_iff.2
        (wrapping_steady.extract [] params (fun i p _ => throughout_arg i p.type fun _ _ => rfl) f s)
    rw [code, transcript_bind, Transcript.changes_append, extracted, Bool.false_or, run_extract]
    cases ha : f.arguments s.heap params 0 with
    | error cause => simp [Transcript.changes]
    | panic p => simp [Transcript.changes]
    | ok args =>
      have delivered := changes_bind (m := thisMut o fun self => (g self args).1)
        (fun self => wrapping_steady.deliver (steady_setReturn returns) (g self args).2) f s
      dsimp only
      rw [delivered, thisMut, transcript_ask transcript_demand, Transcript.changes_singleton,
        changes_thisMut_iff]
      simp only [Outcome.ok.injEq]
      refine ⟨?_, ?_⟩
      · rintro ⟨h, v, named, found⟩
        exact ⟨o, g, args, h, v, rfl, rfl, named, found⟩
      · rintro ⟨o', g', args', h, v, same, -, named, found⟩
        cases same
        exact ⟨h, v, named, found⟩

end Callable

namespace Property

open Native

variable {o : C.Obj}

theorem tidy_getter (p : Property C o) : p.getter.Tidy :=
  wrapping_tidy.getter p (tidy_setReturn p.type)

theorem steady_getter (p : Property C o) : p.getter.Throughout fun e => e.changes = false :=
  wrapping_steady.getter p (steady_setReturn p.type)

/-- A setter never issues anything. -/
theorem tidy_setter (p : Property C o) (set : p.type.Value → C.Instance o → C.Instance o) :
    (p.setter set).Throughout fun e => e.issued? = none :=
  wrapping_tidy.setter p set (throughout_arg 0 p.type fun _ _ => rfl) (tidy_thisMut o)

/-- A setter has nothing left to fail at once it has got its receiver. -/
theorem steady_setter (p : Property C o) (set : p.type.Value → C.Instance o → C.Instance o) :
    (p.setter set).Steady :=
  (throughout_arg 0 p.type fun _ _ => rfl).bind_onFailure fun value =>
    (steady_thisMut o (set value)).bind_pure fun _ => ()

end Property

end NativeBridge
