import NativeBridge.Proofs.Heap.Overwriting
import NativeBridge.Proofs.Marshal.Floats
import NativeBridge.Proofs.Marshal.Kinds

/-!
# Reading back what was written

A value that the host writes is converted to a native one, and converted back when it is read.
`NativeType.ReadsBack` says what comes of it : the value itself, the float that an integer was widened
to, another NaN for a NaN that has been through the 32-bit format, or a handle to a new instance with
what was behind the handle that was written. Only the last of these can fail, if no slot is left
(`NativeType.readsBack_of_fromHost`).

Both conversions can change places with the overwriting of a live instance
(`NativeType.toHost_put`, `NativeType.fromHost_put`).
-/

namespace NativeBridge

variable {C : Catalog}

/-! ## Types that are copied faithfully -/

/-- A copy of a value is the value. -/
def NativeType.Faithful (t : NativeType C) : Prop := ∀ v, t.clone v = .ok v

namespace NativeType

variable {t : NativeType C}

theorem Faithful.content (faithful : (option t).Faithful) : t.Faithful := by
  intro v
  have copy := faithful (some v)
  rw [clone] at copy
  cases inner : t.clone v with
  | error p =>
    rw [inner] at copy
    cases copy
  | ok w =>
    rw [inner] at copy
    cases copy
    rfl

/-- Values of a type that is copied faithfully come out of the heap without a panic. -/
theorem fromHost_ne_panic (faithful : t.Faithful) (policy : NumericPolicy) (heap : Heap C)
    (x : HostValue) (p : Payload) : t.fromHost policy heap x ≠ .panic p := by
  induction t with
  | option t ih =>
    by_cases absent : x = .none
    · subst absent
      rintro ⟨⟩
    · rw [fromHost]
      · cases inner : t.fromHost policy heap x with
        | panic q =>
          rintro ⟨⟩
          exact ih faithful.content inner
        | ok v => rintro ⟨⟩
        | error e => rintro ⟨⟩
      · exact absent
  | object o =>
    cases x with
    | object h =>
      rw [fromHost]
      cases heap.get o h with
      | error e => rintro ⟨⟩
      | ok v =>
        have copy : C.clone o v = .ok v := faithful v
        simp only [copy]
        rintro ⟨⟩
    | _ => rintro ⟨⟩
  | int w =>
    cases x with
    | int n =>
      rw [fromHost]
      cases Fixed.fit? w n.val <;> rintro ⟨⟩
    | _ => rintro ⟨⟩
  | f64 =>
    cases x with
    | int n => exact Outcome.ofExcept_ne_panic p
    | _ => rintro ⟨⟩
  | f32 =>
    cases x with
    | int n | float y => exact Outcome.ofExcept_ne_panic p
    | _ => rintro ⟨⟩
  | bool | str | unit => cases x <;> simp [fromHost]

end NativeType

/-! ## Conversions around an overwritten instance -/

namespace NativeType

variable {t : NativeType C} {heap : Heap C} {h : Handle} {x y : Occupant C}

/-- What the host gets does not depend on a live instance. By induction on the type. -/
theorem toHost_put (wf : heap.WellFormed) (live : heap.occupant? h = some x) (y : Occupant C)
    (v : t.Value) :
    t.toHost v (heap.put h y) = (t.toHost v heap).map fun p => (p.1, p.2.put h y) := by
  induction t with
  | option t ih =>
    cases v with
    | none => rfl
    | some v => exact ih v
  | object o =>
    rw [toHost, toHost, Heap.allocate_put wf live y]
    cases heap.allocate o v <;> rfl
  | int w =>
    rw [toHost, toHost]
    cases Fixed.fit? .i64 v.val <;> rfl
  | f32 | f64 | bool | str | unit => rfl

/-- What the host gives depends on the heap only as far as objects of the type inside are looked up. By
induction on the type. -/
theorem fromHost_eq_of_get {a b : Heap C} {v : HostValue} (policy : NumericPolicy)
    (same : ∀ o k, t.content = .object o → v = .object k → a.get o k = b.get o k) :
    t.fromHost policy a v = t.fromHost policy b v := by
  induction t with
  | option t ih =>
    by_cases absent : v = .none
    · subst absent
      rfl
    · rw [fromHost, fromHost, ih same] <;> exact absent
  | object o =>
    cases v with
    | object k => rw [fromHost, fromHost, same o k rfl rfl]
    | _ => rfl
  | int w =>
    cases v <;> rfl
  | f32 | f64 | bool | str | unit => cases v <;> rfl

/-- What the host gives does not depend on a live instance, unless that is of the type inside. -/
theorem fromHost_put (live : heap.occupant? h = some x) (kept : y.type = x.type)
    (other : t.content ≠ .object x.type) (policy : NumericPolicy) (v : HostValue) :
    t.fromHost policy (heap.put h y) v = t.fromHost policy heap v := by
  refine fromHost_eq_of_get policy fun o k content _ => ?_
  exact Heap.get_put_of_type live kept (fun same => other (same ▸ content)) k

/-- Nor does it, unless that is behind the handle given. -/
theorem fromHost_put_of_ne (live : heap.occupant? h = some x) (y : Occupant C) {v : HostValue}
    (other : ∀ k, v = .object k → k.tenancy ≠ h.tenancy) (policy : NumericPolicy) :
    t.fromHost policy (heap.put h y) v = t.fromHost policy heap v :=
  fromHost_eq_of_get policy fun _ k _ given => Heap.get_put_of_ne live y (other k given)

end NativeType

/-! ## What was written -/

/-- A slot is free, or another can be added. -/
def Heap.HasRoom (heap : Heap C) : Prop := heap.free ≠ [] ∨ heap.slots.size < Heap.slotLimit

/-- A heap without free slots can be filled up. By induction on the slots that can still be added. -/
theorem Heap.exists_full {heap : Heap C} (reachable : heap.Reachable) (free : heap.free = [])
    (small : heap.slots.size ≤ Heap.slotLimit) (o : C.Obj) (v : C.Instance o) :
    ∃ full : Heap C, full.Reachable ∧ ¬full.HasRoom ∧
      ∀ h x, heap.occupant? h = some x → full.occupant? h = some x := by
  induction left : Heap.slotLimit - heap.slots.size generalizing heap with
  | zero =>
    refine ⟨heap, reachable, ?_, fun _ _ => id⟩
    rintro (some | less)
    · exact some free
    · omega
  | succ n ih =>
    have less : heap.slots.size < Heap.slotLimit := by omega
    have wf := reachable.wellFormed
    obtain ⟨ks, evolves⟩ := reachable
    let more : Heap C := ⟨heap.slots.push ⟨0, some ⟨o, v, 1, false⟩⟩, [], heap.live + 1⟩
    have allocated : heap.allocate o v = .ok (⟨heap.slots.size, 0, C.identity o⟩, more) := by
      rw [Heap.allocate, free]
      exact if_pos less
    have size : more.slots.size = heap.slots.size + 1 := Array.size_push _
    obtain ⟨full, reachable', noRoom, kept⟩ := ih ⟨_, evolves.allocate allocated⟩ rfl (by omega) (by omega)
    refine ⟨full, reachable', noRoom, fun h x live => kept h x ?_⟩
    rw [Heap.occupant?_allocate wf.free_vacant allocated, if_neg]
    · exact live
    · intro same
      exact wf.not_issued_of_allocate allocated (same ▸ wf.issued_of_live live)

namespace NativeType

/-- The host reads this, in a step from one heap to the next, after it has written that : the same,
with three exceptions. For an integer written as a float it reads the float. For a handle it reads a
new one, which reaches an instance of its own with what was behind the handle in the heap in which
that was written. A NaN that was written in the 32-bit format may have become another. -/
def ReadsBack (t : NativeType C) (written before after : Heap C) : HostValue → HostValue → Prop
  | .int n, w => w = if t.kind = .float then .float (Binary.ofInt n.val) else .int n
  | .float x, w => w = .float x ∨ t.content = .f32 ∧ x.isNaN ∧ ∃ y : Binary64, y.isNaN ∧ w = .float y
  | .object k, w => ∃ o value j, t.content = .object o ∧ written.get o k = .ok value ∧
      w = .object j ∧ j.identity = C.identity o ∧ ¬before.Issued j.tenancy ∧
        after.occupant? j = some ⟨o, value, 1, false⟩
  | .none, w => w = .none
  | .bool b, w => w = .bool b
  | .str s, w => w = .str s

variable {t : NativeType C} {written before : Heap C}

/-- What was written is read back, unless that takes a new instance and there is no room for one. By
induction on the type. -/
theorem readsBack_of_fromHost {policy : NumericPolicy} {v : HostValue} {a : t.Value}
    (faithful : t.Faithful) (wf : before.WellFormed)
    (accepted : t.fromHost policy written v = .ok a) :
    (∃ w after, t.toHost a before = .ok (w, after) ∧ t.ReadsBack written before after v w) ∨
      (∃ o, t.content = .object o) ∧ ¬before.HasRoom ∧ t.toHost a before = .error .heapExhausted := by
  induction t with
  | int w =>
    obtain ⟨n, rfl, same⟩ := fromHost_int_eq_ok_iff.1 accepted
    refine Or.inl ⟨.int n, before, ?_, rfl⟩
    rw [toHost, Fixed.fit?_eq_some_iff.2 same]
  | f64 =>
    cases v with
    | float x =>
      cases accepted
      exact Or.inl ⟨_, before, rfl, Or.inl rfl⟩
    | int n =>
      obtain ⟨-, -, rfl⟩ :=
        NumericPolicy.widen_eq_ok_iff.1 (Outcome.ofExcept_eq_ok_iff.1 accepted)
      exact Or.inl ⟨_, before, rfl, rfl⟩
    | none | bool | str | object => cases accepted
  | f32 =>
    cases v with
    | float x =>
      have narrowed : x.narrow = .ok a := Outcome.ofExcept_eq_ok_iff.1 accepted
      refine Or.inl ⟨_, before, rfl, ?_⟩
      cases nan : x.isNaN with
      | false => exact Or.inl (congrArg HostValue.float (Binary64.convert_of_narrow nan narrowed))
      | true =>
        refine Or.inr ⟨rfl, nan, _, ?_, rfl⟩
        rw [Binary.convert_of_isNaN (Binary64.isNaN_of_narrow nan narrowed)]
        exact Binary.isNaN_nan
    | int n =>
      obtain ⟨-, small, rfl⟩ :=
        NumericPolicy.widen_eq_ok_iff.1 (Outcome.ofExcept_eq_ok_iff.1 accepted)
      exact Or.inl ⟨_, before, rfl,
        congrArg HostValue.float (Binary.convert_ofInt small (small.trans (by decide)))⟩
    | none | bool | str | object => cases accepted
  | bool =>
    cases v with
    | bool b =>
      cases accepted
      exact Or.inl ⟨_, before, rfl, rfl⟩
    | none | int | float | str | object => cases accepted
  | str =>
    cases v with
    | str s =>
      cases accepted
      exact Or.inl ⟨_, before, rfl, rfl⟩
    | none | bool | int | float | object => cases accepted
  | unit =>
    cases v with
    | none => exact Or.inl ⟨.none, before, rfl, rfl⟩
    | bool | int | float | str | object => cases accepted
  | option t ih =>
    by_cases absent : v = .none
    · subst absent
      cases accepted
      exact Or.inl ⟨.none, before, rfl, rfl⟩
    · obtain ⟨b, inner, rfl⟩ := (fromHost_option_eq_ok_iff absent).1 accepted
      exact ih faithful.content inner
  | object o =>
    cases v with
    | object k =>
      rw [fromHost] at accepted
      cases found : written.get o k with
      | error e =>
        rw [found] at accepted
        cases accepted
      | ok value =>
        have copy : C.clone o value = .ok value := faithful value
        simp only [found, copy, Outcome.ok.injEq] at accepted
        subst accepted
        rw [toHost]
        cases allocated : before.allocate o value with
        | error e =>
          obtain ⟨rfl, none, full⟩ := Heap.allocate_eq_error allocated
          refine Or.inr ⟨⟨o, rfl⟩, ?_, rfl⟩
          rintro (some | room)
          · exact some none
          · exact Nat.not_lt.2 full room
        | ok p =>
          obtain ⟨j, after⟩ := p
          have view := Heap.occupant?_allocate wf.free_vacant allocated j
          exact Or.inl ⟨.object j, after, rfl, o, value, j, rfl, found, rfl,
            Heap.identity_of_allocate allocated, wf.not_issued_of_allocate allocated,
            view.trans (if_pos rfl)⟩
    | none | bool | int | float | str => cases accepted

end NativeType

end NativeBridge
