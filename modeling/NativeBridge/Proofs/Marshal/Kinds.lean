import NativeBridge.Proofs.Heap.Evolution
import NativeBridge.Proofs.Marshal.Floats
import NativeBridge.Proofs.Marshal.RoundTrip

/-!
# Conversions and kinds

Of a type the host is told the kind, `NativeType.kind`, and the conversions never look at it. Still
they agree, for every type : what the host gets is of the kind (`NativeType.presents_of_toHost`), and
what is accepted from it is of the kind, or an integer that is widened
(`NativeType.takes_of_fromHost`). The kind of an option is that of its content, so `none` comes on top.

Which handles are of an object kind is told in two ways (`Kind.Admits`). A handle that the host gets
carries the identity of the exposed name (`Heap.Exposes`). Of a handle that it gives only the
instance behind it counts, which has to be of the very type (`Heap.Holds`).
-/

namespace NativeBridge

variable {C : Catalog}

/-! ## Values of a kind -/

/-- The value is of the kind, where `objects` tells the handles of each object kind. -/
inductive Kind.Admits (objects : String → Handle → Prop) : Kind → HostValue → Prop
  | none : Admits objects .none .none
  | bool (b : Bool) : Admits objects .bool (.bool b)
  | int (n : HostInt) : Admits objects .int (.int n)
  | float (x : Binary64) : Admits objects .float (.float x)
  | str (s : String) : Admits objects .str (.str s)
  | object {name : String} {h : Handle} (good : objects name h) :
      Admits objects (.object name) (.object h)

namespace NativeType

/-- The type may hold nothing. -/
def IsOption (t : NativeType C) : Prop := ∃ s, t = option s

/-- The type inside all options. -/
def content : NativeType C → NativeType C
  | option t => t.content
  | t => t

end NativeType

namespace Heap

/-- The handle carries the identity of the name, and reaches a live instance known by that name. -/
def Exposes (heap : Heap C) (name : String) (h : Handle) : Prop :=
  h.identity = .ofType name ∧ heap.typeName h = .ok name

/-- The handle reaches a live instance of the object type inside `t`, which is known by the name. -/
def Holds (heap : Heap C) (t : NativeType C) (name : String) (h : Handle) : Prop :=
  ∃ x, heap.occupant? h = some x ∧ t.content = .object x.type ∧ C.name x.type = name

variable {heap heap' : Heap C} {o : C.Obj} {v : C.Instance o} {h : Handle}

/-- A handle just issued carries the identity of its type and reaches the new instance. -/
theorem exposes_of_allocate (wf : heap.WellFormed) (allocated : heap.allocate o v = .ok (h, heap')) :
    heap'.Exposes (C.name o) h := by
  have live : heap'.occupant? h = some ⟨o, v, 1, false⟩ := by
    rw [occupant?_allocate wf.free_vacant allocated, if_pos rfl]
  refine ⟨identity_of_allocate allocated, ?_⟩
  rw [typeName, lookup_of_live live]
  rfl

theorem holds_of_get (found : heap.get o h = .ok v) : heap.Holds (.object o) (C.name o) h := by
  obtain ⟨x, live, typed⟩ := get_eq_ok_iff.1 found
  have type : x.type = o := congrArg Occupant.type (Occupant.as?_eq_some_iff.1 typed)
  exact ⟨x, live, congrArg NativeType.object type.symm, congrArg C.name type⟩

end Heap

namespace NativeType

/-- What the host may get for a value of the type. -/
inductive Presents (heap : Heap C) (t : NativeType C) : HostValue → Prop
  | ofKind {x : HostValue} (admits : t.kind.Admits heap.Exposes x) : Presents heap t x
  | nothing (optional : t.IsOption) : Presents heap t .none

/-- What the host may give for a value of the type. -/
inductive Takes (policy : NumericPolicy) (heap : Heap C) (t : NativeType C) : HostValue → Prop
  | ofKind {x : HostValue} (admits : t.kind.Admits (heap.Holds t) x) : Takes policy heap t x
  | nothing (optional : t.IsOption) : Takes policy heap t .none
  | widened (n : HostInt) (float : t.kind = .float) (widening : policy = .widening) :
      Takes policy heap t (.int n)

variable {t : NativeType C} {heap heap' : Heap C} {policy : NumericPolicy} {x : HostValue}

/-- An option presents what its content does. -/
theorem Presents.option (presents : t.Presents heap x) : (option t).Presents heap x := by
  cases presents with
  | ofKind admits => exact .ofKind admits
  | nothing => exact .nothing ⟨t, rfl⟩

/-- An option takes what its content does. -/
theorem Takes.option (takes : t.Takes policy heap x) : (option t).Takes policy heap x := by
  cases takes with
  | ofKind admits => exact .ofKind admits
  | nothing => exact .nothing ⟨t, rfl⟩
  | widened n float widening => exact .widened n float widening

/-! ## To the host -/

/-- What the host gets for a value is of the kind of its type. By induction on the type. -/
theorem presents_of_toHost (wf : heap.WellFormed) {v : t.Value}
    (handed : t.toHost v heap = .ok (x, heap')) : t.Presents heap' x := by
  induction t with
  | int w =>
    unfold toHost at handed
    split at handed
    next n _ =>
      cases handed
      exact .ofKind (.int n)
    next => cases handed
  | f64 =>
    cases handed
    exact .ofKind (.float v)
  | f32 =>
    cases handed
    exact .ofKind (.float v.convert)
  | bool =>
    cases handed
    exact .ofKind (.bool v)
  | str =>
    cases handed
    exact .ofKind (.str v)
  | unit =>
    cases handed
    exact .ofKind .none
  | option t ih =>
    cases v with
    | none =>
      cases handed
      exact .nothing ⟨t, rfl⟩
    | some v => exact (ih handed).option
  | object o =>
    unfold toHost at handed
    cases allocated : heap.allocate o v with
    | error e =>
      rw [allocated] at handed
      cases handed
    | ok p =>
      rw [allocated] at handed
      cases handed
      exact .ofKind (.object (Heap.exposes_of_allocate wf allocated))

/-! ## From the host -/

/-- What is accepted for a value is of the kind of its type, or an integer where widening is allowed.
By induction on the type. -/
theorem takes_of_fromHost {v : t.Value} (accepted : t.fromHost policy heap x = .ok v) :
    t.Takes policy heap x := by
  induction t with
  | int w =>
    obtain ⟨n, rfl, -⟩ := fromHost_int_eq_ok_iff.1 accepted
    exact .ofKind (.int n)
  | f64 | f32 =>
    cases x with
    | float y => exact .ofKind (.float y)
    | int n =>
      have widened := NumericPolicy.widen_eq_ok_iff.1 (Outcome.ofExcept_eq_ok_iff.1 accepted)
      exact .widened n rfl widened.1
    | none | bool | str | object => cases accepted
  | bool =>
    cases x with
    | bool b => exact .ofKind (.bool b)
    | none | int | float | str | object => cases accepted
  | str =>
    cases x with
    | str s => exact .ofKind (.str s)
    | none | bool | int | float | object => cases accepted
  | unit =>
    cases x with
    | none => exact .ofKind .none
    | bool | int | float | str | object => cases accepted
  | option t ih =>
    by_cases absent : x = .none
    · rw [absent]
      exact .nothing ⟨t, rfl⟩
    · obtain ⟨w, inner, -⟩ := (fromHost_option_eq_ok_iff absent).1 accepted
      exact (ih inner).option
  | object o =>
    cases x with
    | object h =>
      cases found : heap.get o h with
      | ok value => exact .ofKind (.object (Heap.holds_of_get found))
      | error e =>
        rw [fromHost, found] at accepted
        cases accepted
    | none | bool | int | float | str => cases accepted

end NativeType

end NativeBridge
