import Mathlib.Tactic.SplitIfs
import NativeBridge.Gallery.Sample
import NativeBridge.Proofs.Native.Run
import NativeBridge.Proofs.Registry.Validity

/-!
# Generated bindings

Bindings may be written by hand, but most are generated from signatures : functions from callables
without a receiver, classes from the fields of an object type, method tables from callables of an
object type, of which the constructor returns instances of it. `Module.Generated` and
`Registry.Generated` say so of a module and of a registry.

`Module.Generated.build` : the registry of a generated module is generated. The method table of a
class belongs to it by its identity, so it may come from another object type of the same exposed
name.
-/

namespace NativeBridge

variable {C : Catalog}

/-! ## Callables by their receivers -/

namespace Callable

/-- The callable is a free function. -/
def IsFree (c : Callable C) : Prop :=
  match c.body with
  | .free _ => True
  | _ => False

/-- The callable is a method of the object type. -/
def IsMethodOf (o : C.Obj) (c : Callable C) : Prop :=
  match c.body with
  | .free _ => False
  | .reading r _ | .copying r _ | .changing r _ => r = o

/-- The callable is a free function that returns instances of the object type. -/
def Constructs (o : C.Obj) (c : Callable C) : Prop := c.IsFree ∧ c.returns = .object o

end Callable

/-! ## Generated descriptors -/

/-- A function made of a callable. -/
def FunctionMeta.Generated (f : FunctionMeta C) : Prop :=
  ∃ (name : String) (c : Callable C), c.IsFree ∧ f = c.toFunction name

/-- A class made of the fields of an object type. -/
def ClassMeta.Generated (c : ClassMeta C) : Prop :=
  ∃ (o : C.Obj) (copies : Bool) (ps : List (Property C o)), c = .ofProperties o copies ps

/-- A method made of a callable of the object type. -/
def MethodMeta.Generated (o : C.Obj) (m : MethodMeta C) : Prop :=
  ∃ (name : String) (c : Callable C), c.IsMethodOf o ∧ m = c.toMethod o name

/-- A constructor made of a callable that returns instances of the object type. -/
def ConstructorMeta.Generated (o : C.Obj) (k : ConstructorMeta C) : Prop :=
  ∃ c : Callable C, c.Constructs o ∧ k = c.toConstructor o

/-- A method table made of callables of an object type. -/
def MethodTable.Generated (t : MethodTable C) : Prop :=
  ∃ (o : C.Obj) (constructor : Option (Callable C)) (methods : List (String × Callable C)),
    (∀ c ∈ constructor, c.Constructs o) ∧ (∀ m ∈ methods, m.2.IsMethodOf o) ∧
      t = .ofCallables o constructor methods

/-- A class whose fields are generated from one object type and whose methods from one of the same
identity. -/
structure ClassEntry.Generated (e : ClassEntry C) : Prop where
  declared : ∃ (o : C.Obj) (copies : Bool) (ps : List (Property C o)),
    (⟨e.name, e.identity, e.sharing, e.fields, e.copy⟩ : ClassMeta C) = .ofProperties o copies ps
  table : ∃ o, C.identity o = e.identity ∧ (∀ m ∈ e.methods, m.Generated o) ∧
    ∀ k ∈ e.constructor, k.Generated o

/-- Every binding of the registry is generated. -/
structure Registry.Generated (r : Registry C) : Prop where
  functions : ∀ f ∈ r.functions, f.Generated
  classes : ∀ e ∈ r.classes, e.Generated

/-- Every declaration of the module is generated. -/
structure Module.Generated (m : Module C) : Prop where
  functions : ∀ f ∈ m.functions, f.Generated
  classes : ∀ c ∈ m.classes, c.Generated
  tables : ∀ t ∈ m.tables, t.Generated

/-! ## Building -/

/-- An entry made of generated declarations is generated. -/
theorem ClassEntry.Tabled.generated {e : ClassEntry C} {ts : List (MethodTable C)}
    (tabled : e.Tabled ts) (class_ : e.declared.Generated) (tables : ∀ t ∈ ts, t.Generated) :
    e.Generated := by
  refine ⟨class_, ?_⟩
  rcases tabled with ⟨-, methods, constructor, -⟩ | ⟨mem, same, methods, constructor, -⟩
  · obtain ⟨o, copies, ps, declared⟩ := class_
    have identity : C.identity o = e.identity := (congrArg ClassMeta.identity declared).symm
    exact ⟨o, identity, by simp [methods], by simp [constructor]⟩
  · obtain ⟨o, k, ms, constructs, owned, rfl⟩ := tables _ mem
    rw [methods, constructor]
    refine ⟨o, same, fun m hm => ?_, fun k' hk => ?_⟩
    · obtain ⟨p, hp, rfl⟩ := List.mem_map.1 hm
      exact ⟨p.1, p.2, owned p hp, rfl⟩
    · obtain ⟨c, hc, rfl⟩ := Option.map_eq_some_iff.1 hk
      exact ⟨c, constructs c hc, rfl⟩

/-- The registry of a generated module is generated. -/
theorem Module.Generated.build {m : Module C} {r : Registry C} (generated : m.Generated)
    (built : m.build = .ok r) : r.Generated := by
  have made := Module.represents_of_build built
  refine ⟨fun f hf => generated.functions f (made.functions ▸ hf), fun e he => ?_⟩
  have declared : e.declared ∈ m.classes := made.classes ▸ List.mem_map_of_mem he
  exact (made.tables e he).generated (generated.classes _ declared) generated.tables

open Gallery in
/-- The module `sample` is generated. -/
example : sample.Generated where
  functions := List.forall_mem_cons.2
    ⟨⟨"add", _, by trivial, rfl⟩, List.forall_mem_singleton.2 ⟨"fibonacci", _, by trivial, rfl⟩⟩
  classes := List.forall_mem_singleton.2 ⟨.point, true, Point.fields, rfl⟩
  tables := by
    refine List.forall_mem_singleton.2 ⟨Exhibit.point, some Point.new, Point.methods, ?_, ?_, rfl⟩
    · rintro c ⟨⟩
      exact ⟨trivial, rfl⟩
    · simp [Point.methods, Callable.IsMethodOf, reading, changing]

/-! ## What generated bindings are made of -/

/-- Mutating methods are those that get their receiver for changing. -/
theorem Callable.mode_eq_mutating_iff {c : Callable C} {o : C.Obj} :
    c.mode o = .mutating ↔ ∃ r g, c.body = .changing r g := by
  unfold Callable.mode
  cases c.body with
  | changing r g => simp
  | free | reading | copying =>
    simp only [reduceCtorEq, exists_false, iff_false]
    split_ifs <;> simp

/-- A function without a receiver has none to change. -/
theorem Callable.IsFree.ne_changing {c : Callable C} (free : c.IsFree) (o : C.Obj)
    (g : C.Instance o → Arguments c.params → C.Instance o × Outcome String c.returns.Value) :
    c.body ≠ .changing o g := by
  intro hb
  rw [IsFree, hb] at free
  exact free

/-- A method gets for changing what is of its type. -/
theorem Callable.IsMethodOf.type_eq {c : Callable C} {o r : C.Obj}
    {g : C.Instance r → Arguments c.params → C.Instance r × Outcome String c.returns.Value}
    (own : c.IsMethodOf o) (body : c.body = .changing r g) : r = o := by
  rw [IsMethodOf, body] at own
  exact own

/-- Value-producing methods return instances of the type. -/
theorem Callable.returns_of_valueProducing {c : Callable C} {o : C.Obj}
    (producing : c.mode o = .valueProducing) : c.returns = .object o := by
  have produces : c.produces o = true := by
    unfold mode at producing
    cases body : c.body with
    | changing r g =>
      rw [body] at producing
      cases producing
    | free | reading | copying =>
      rw [body] at producing
      by_contra other
      rw [if_neg other] at producing
      cases producing
  unfold Callable.produces at produces
  split at produces
  next r same => rw [same, of_decide_eq_true produces]
  next => cases produces

/-- For an instance the host gets a handle of its type. -/
theorem NativeType.exists_of_toHost_object {o : C.Obj} {v : C.Instance o} {heap after : Heap C}
    {result : HostValue} (handed : (NativeType.object o).toHost v heap = .ok (result, after)) :
    ∃ h, result = .object h ∧ h.identity = C.identity o := by
  obtain ⟨p, allocated, returned⟩ := bind_eq_ok_iff.1 handed
  cases returned
  exact ⟨p.1, rfl, Heap.identity_of_allocate allocated⟩

/-- A constructor that succeeds returns an instance of its type. -/
theorem Callable.Constructs.result {c : Callable C} {o : C.Obj} (constructs : c.Constructs o)
    {f : Frame} {s s' : Activation C} (ok : c.code.run f s = (.ok (), s')) :
    ∃ h, s'.result = .object h ∧ h.identity = C.identity o := by
  obtain ⟨params, returns, body⟩ := c
  obtain ⟨free, same⟩ := constructs
  cases same
  cases body with
  | reading | copying | changing => cases free
  | free g =>
    obtain ⟨args, t, -, delivered⟩ := Native.run_bind_eq_ok_iff.1 ok
    obtain ⟨v, result, heap, -, handed, rfl⟩ := (Native.run_deliver_eq_ok_iff f t).1 delivered
    exact NativeType.exists_of_toHost_object handed

namespace ClassEntry.Generated

variable {e : ClassEntry C}

/-- A field of a generated class comes from a property of a type with its identity. -/
theorem field {f : FieldMeta C} (generated : e.Generated) (member : f ∈ e.fields) :
    ∃ (o : C.Obj) (p : Property C o), C.identity o = e.identity ∧ f = p.toField := by
  obtain ⟨o, copies, ps, same⟩ := generated.declared
  have fields : e.fields = ps.map Property.toField := congrArg ClassMeta.fields same
  have identity : e.identity = C.identity o := congrArg ClassMeta.identity same
  rw [fields] at member
  obtain ⟨p, -, rfl⟩ := List.mem_map.1 member
  exact ⟨o, p, identity.symm, rfl⟩

theorem method {m : MethodMeta C} (generated : e.Generated) (member : m ∈ e.methods) :
    ∃ (o : C.Obj) (name : String) (c : Callable C), C.identity o = e.identity ∧ c.IsMethodOf o ∧
      m = c.toMethod o name := by
  obtain ⟨o, identity, methods, -⟩ := generated.table
  obtain ⟨name, c, own, rfl⟩ := methods m member
  exact ⟨o, name, c, identity, own, rfl⟩

/-- A constructor of a generated class makes instances of a type with its identity. -/
theorem constructor {k : ConstructorMeta C} (generated : e.Generated)
    (present : e.constructor = some k) :
    ∃ (o : C.Obj) (c : Callable C), C.identity o = e.identity ∧ c.Constructs o ∧
      k = c.toConstructor o := by
  obtain ⟨o, same, -, constructors⟩ := generated.table
  obtain ⟨c, constructs, rfl⟩ := constructors k present
  exact ⟨o, c, same, constructs, rfl⟩

end ClassEntry.Generated

/-- A setter of a generated field is that of its property. -/
theorem Property.setter_of_toField {o : C.Obj} {p : Property C o} {setter : NativeFn C}
    (writable : p.toField.setter = some setter) :
    ∃ set, setter.code = p.setter set := by
  obtain ⟨set, -, rfl⟩ := Option.map_eq_some_iff.1 writable
  exact ⟨set, rfl⟩

end NativeBridge
