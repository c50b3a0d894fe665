import NativeBridge.Proofs.Wrapper.Signatures

/-!
# Receivers of wrappers

The receiver of a wrapper has to be a live instance of the type that its callable is for
(`Heap.Houses`). A call that succeeds has found one (`Callable.Behaves.houses`), and if there is
one, the call does not end for want of it (`Callable.Wraps.run_ne_invalidReceiver`).

For changing, a wrapper gets its receiver if there is one, all arguments convert and the callable is
`changing`, and not otherwise (`Callable.Wraps.changes_iff`).
-/

namespace NativeBridge

variable {C : Catalog}

/-! ## Instances of a type -/

/-- The handle reaches a live instance of the type. -/
def Heap.Houses (heap : Heap C) (h : Handle) (o : C.Obj) : Prop :=
  ∃ x, heap.occupant? h = some x ∧ x.type = o

namespace Heap

variable {heap : Heap C} {h : Handle} {o : C.Obj} {x : Occupant C}

theorem houses_iff : heap.Houses h o ↔ ∃ v, heap.get o h = .ok v := by
  refine ⟨?_, ?_⟩
  · rintro ⟨x, live, rfl⟩
    exact ⟨x.value, get_of_live live (Occupant.as?_eq_some_iff.2 rfl)⟩
  · rintro ⟨v, found⟩
    obtain ⟨x, live, typed⟩ := get_eq_ok_iff.1 found
    exact ⟨x, live, congrArg Occupant.type (Occupant.as?_eq_some_iff.1 typed)⟩

theorem houses_iff_of_live (live : heap.occupant? h = some x) : heap.Houses h o ↔ x.type = o := by
  refine ⟨?_, fun type => ⟨x, live, type⟩⟩
  rintro ⟨y, there, type⟩
  cases live.symm.trans there
  exact type

end Heap

/-- An object that is accepted for a parameter is of the type inside it. -/
theorem NativeType.houses_of_fromHost {t : NativeType C} {policy : NumericPolicy} {heap : Heap C}
    {h : Handle} {v : t.Value} (accepted : t.fromHost policy heap (.object h) = .ok v) :
    ∃ o, t.content = .object o ∧ heap.Houses h o := by
  cases takes_of_fromHost accepted with
  | ofKind admits =>
    generalize t.kind = kind at admits
    cases admits with
    | object good =>
      obtain ⟨x, live, content, -⟩ := good
      exact ⟨x.type, content, x, live, rfl⟩

/-- A free function takes no receiver. -/
theorem Callable.IsFree.receiver? {c : Callable C} (free : c.IsFree) : c.body.receiver? = none := by
  obtain ⟨params, returns, body⟩ := c
  cases body with
  | free f => rfl
  | reading | copying | changing => cases free

/-- A method takes a receiver of its type. -/
theorem Callable.IsMethodOf.receiver? {c : Callable C} {o : C.Obj} (own : c.IsMethodOf o) :
    c.body.receiver? = some o := by
  obtain ⟨params, returns, body⟩ := c
  cases body with
  | free f => cases own
  | reading r f | copying r f | changing r f => exact congrArg some own

/-! ## Calls that find their receiver -/

section Found

variable {inv : Invoker} {c : Callable C} {site : CallSite} {receiver : Option Handle}
  {args : List HostValue} {heap : Heap C} {o : C.Obj}

/-- The function is applied to instances of its type only. -/
theorem Body.Applies.houses {ps : List (Parameter C)} {t : NativeType C} {body : Body C ps t}
    {after : Heap C} {values : Arguments ps} {outcome : Outcome String t.Value}
    (applies : body.Applies heap receiver values outcome after) (wants : body.receiver? = some o) :
    ∃ h, receiver = some h ∧ heap.Houses h o := by
  cases applies with
  | free => cases wants
  | reading f named found | copying f named found =>
    cases wants
    exact ⟨_, named, Heap.houses_iff.2 ⟨_, found⟩⟩
  | changing f named live =>
    cases wants
    exact ⟨_, named, _, live, rfl⟩

/-- A call that succeeds has found its receiver. -/
theorem Callable.Behaves.houses {r : Invoker.Effect C HostValue} {result : HostValue}
    (rule : c.Behaves inv site receiver args heap r) (ok : r.outcome = .ok result)
    (wants : c.body.receiver? = some o) : ∃ h, receiver = some h ∧ heap.Houses h o := by
  obtain ⟨values, outcome, between, v, -, applies, -⟩ := rule.ran_of_ok ok
  exact applies.houses wants

end Found

/-! ## Calls that do not -/

section Missed

open Native

variable {f : Frame} {s : Activation C} {reason : String}

theorem Native.run_deliver_ne_invalidReceiver (t : NativeType C) (o : Outcome String t.Value) :
    ((deliver t o).run f s).1 ≠ .error (.invalidReceiver reason) := by
  cases o with
  | ok v =>
    rw [deliver, run_setReturn]
    cases t.toHost v s.heap <;> rintro ⟨⟩
  | error cause => rintro ⟨⟩
  | panic p => rintro ⟨⟩

/-- The function is not kept from its receiver if there is one. -/
theorem Body.run_code_ne_invalidReceiver {ps : List (Parameter C)} {t : NativeType C}
    {body : Body C ps t} (values : Arguments ps)
    (found : ∀ o, body.receiver? = some o → ∃ h, f.receiver = some h ∧ s.heap.Houses h o) :
    ((body.code values).run f s).1 ≠ .error (.invalidReceiver reason) := by
  cases body with
  | free g => exact run_deliver_ne_invalidReceiver t _
  | reading o g =>
    obtain ⟨h, named, houses⟩ := found o rfl
    obtain ⟨self, found⟩ := Heap.houses_iff.1 houses
    rw [run_code_of_applies (.reading g named found)]
    exact run_deliver_ne_invalidReceiver t _
  | copying o g =>
    obtain ⟨h, named, houses⟩ := found o rfl
    obtain ⟨self, found⟩ := Heap.houses_iff.1 houses
    cases copied : C.clone o self with
    | error q =>
      rw [run_code_of_copy named found copied]
      rintro ⟨⟩
    | ok copy =>
      rw [run_code_of_applies (.copying g named found copied)]
      exact run_deliver_ne_invalidReceiver t _
  | changing o g =>
    obtain ⟨h, named, ⟨type, self, holders, mutated⟩, live, rfl⟩ := found o rfl
    rw [run_code_of_applies (.changing g named live)]
    exact run_deliver_ne_invalidReceiver t _

/-- A call with the right number of arguments does not end for want of a receiver if there is
one. -/
theorem Callable.Wraps.run_ne_invalidReceiver {c : Callable C} {code : Native C Unit}
    {receiver : Option Handle} {args : List HostValue} {policy : NumericPolicy} {heap : Heap C}
    (wraps : c.Wraps code) (arity : args.length = c.params.length)
    (found : ∀ o, c.body.receiver? = some o → ∃ h, receiver = some h ∧ heap.Houses h o) :
    (code.run ⟨args, receiver, policy⟩ { heap }).1 ≠ .error (.invalidReceiver reason) := by
  obtain ⟨values, converts⟩ | ⟨i, p, v, reached, ⟨e, failed⟩ | ⟨q, failed⟩⟩ :=
    converts_cases policy heap arity
  · rw [wraps.run_of_converts converts]
    exact Body.run_code_ne_invalidReceiver values found
  · rw [wraps.run_of_error reached failed]
    rintro ⟨⟩
  · rw [wraps.run_of_panic reached failed]
    rintro ⟨⟩

end Missed

/-! ## Receivers got for changing -/

section Changes

open Native

variable {f : Frame} {heap : Heap C}

/-- A setter changes the receiver if the value converts and the receiver is of the type. -/
theorem Property.changes_setter_iff {o : C.Obj} (p : Property C o)
    (set : p.type.Value → C.Instance o → C.Instance o) :
    ((p.setter set).transcript f { heap }).changes = true ↔
      ∃ value h v, f.argument heap 0 p.type = .ok value ∧ f.receiver = some h ∧
        heap.get o h = .ok v := by
  have extracted : ((arg 0 p.type).transcript f { heap }).changes = false :=
    Transcript.changes_eq_false_iff.2 (throughout_arg 0 p.type (fun _ _ => rfl) f { heap })
  rw [setter, transcript_bind, Transcript.changes_append, extracted, Bool.false_or, run_arg]
  cases converted : f.argument heap 0 p.type with
  | error cause => simp [Transcript.changes]
  | panic q => simp [Transcript.changes]
  | ok value =>
    dsimp only
    rw [changes_bind (fun _ => throughout_pure ()), thisMut, transcript_ask transcript_demand,
      Transcript.changes_singleton, changes_thisMut_iff]
    simp

/-- A wrapper gets its receiver for changing if its callable is `changing`, all arguments convert,
and the receiver is a live instance of the type, and not otherwise. -/
theorem Callable.Wraps.changes_iff {c : Callable C} {code : Native C Unit} (wraps : c.Wraps code) :
    (code.transcript f { heap }).changes = true ↔
      ∃ o g values h v, c.body = .changing o g ∧ f.arguments heap c.params 0 = .ok values ∧
        f.receiver = some h ∧ heap.get o h = .ok v := by
  cases wraps with
  | callable => exact c.changes_code_iff f { heap }
  | getter p =>
    rw [p.getter_eq]
    exact p.reader.changes_code_iff f { heap }
  | @setter o p set =>
    have converted : f.arguments heap (p.writer set).params 0 =
        (f.argument heap 0 p.type).bind fun value => .ok (value, ()) := rfl
    rw [p.changes_setter_iff set, converted]
    refine ⟨?_, ?_⟩
    · rintro ⟨value, h, v, accepted, named, found⟩
      rw [accepted]
      exact ⟨o, _, (value, ()), h, v, rfl, rfl, named, found⟩
    · rintro ⟨o', g, values, h, v, body, accepted, named, found⟩
      cases body
      cases first : f.argument heap 0 p.type with
      | ok value => exact ⟨value, h, v, rfl, named, found⟩
      | error cause =>
        rw [first] at accepted
        cases accepted
      | panic q =>
        rw [first] at accepted
        cases accepted

end Changes

end NativeBridge
