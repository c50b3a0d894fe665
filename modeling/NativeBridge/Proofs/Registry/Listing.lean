import Mathlib.Data.List.Nodup
import Mathlib.Data.List.TakeWhile
import NativeBridge.Gallery.Sample
import NativeBridge.Listing
import NativeBridge.Proofs.Registry.Validity

/-!
# What a listing lists

A listing names a member behind its class and a dot. If the names of classes have no dots themselves,
the first dot of such a name tells where the class ends (`Binding.ownerOf_qualify`,
`Binding.memberOf_qualify`), so that a binding can be looked up by its kind and its qualified name :
`Registry.resolve?`.

`Module.bindings_of_build` : the listing of a registry that is built has exactly the bindings that
their own kind and name resolve to, none of them twice, in the order of the module's declarations.
That no name is there twice is what the indexes of a registry see to (`Index.Inverts.nodup`).
-/

namespace NativeBridge

variable {C : Catalog}

/-! ## Names -/

/-- The name has no dot in it. -/
def Undotted (name : String) : Prop := '.' ∉ name.toList

instance (name : String) : Decidable (Undotted name) :=
  inferInstanceAs (Decidable ('.' ∉ name.toList))

theorem Undotted.forall_mem {name : String} (undotted : Undotted name) :
    ∀ c ∈ name.toList, decide (c ≠ '.') = true :=
  fun _ mem => decide_eq_true fun dot => undotted (dot ▸ mem)

namespace Binding

/-- What a qualified name has before its first dot. -/
def ownerOf (q : String) : String := String.ofList (q.toList.takeWhile (· ≠ '.'))

/-- What a qualified name has behind its first dot. -/
def memberOf (q : String) : String := String.ofList (q.toList.dropWhile (· ≠ '.')).tail

/-- What tells a binding from the others of a listing. -/
def key (b : Binding) : BindingKind × String := (b.kind, b.qualifiedName)

variable {typeName x y : String}

theorem toList_qualify : (qualify typeName x).toList = typeName.toList ++ '.' :: x.toList := by
  rw [qualify, String.toList_append, String.toList_append, List.append_assoc]
  rfl

theorem qualify_right_inj : qualify typeName x = qualify typeName y ↔ x = y := by
  rw [← String.toList_inj, toList_qualify, toList_qualify, List.append_right_inj, List.cons_inj_right,
    String.toList_inj]

theorem ownerOf_undotted (undotted : Undotted typeName) : ownerOf typeName = typeName := by
  rw [ownerOf, List.takeWhile_eq_self_iff.2 undotted.forall_mem, String.ofList_toList]

/-- The owner is read back from a qualified name, if its own name has no dot. -/
theorem ownerOf_qualify (undotted : Undotted typeName) :
    ownerOf (qualify typeName x) = typeName := by
  rw [ownerOf, toList_qualify, List.takeWhile_append_of_pos undotted.forall_mem,
    List.takeWhile_cons_of_neg (by decide), List.append_nil, String.ofList_toList]

/-- The member is read back from a qualified name, if the owner's name has no dot. Its own may have
some. -/
theorem memberOf_qualify (undotted : Undotted typeName) : memberOf (qualify typeName x) = x := by
  rw [memberOf, toList_qualify, List.dropWhile_append_of_pos undotted.forall_mem,
    List.dropWhile_cons_of_neg (by decide), List.tail_cons, String.ofList_toList]

end Binding

/-! ## Bindings of fields -/

/-- The access that a binding of the kind gives is permitted. -/
def FieldAccess.permits (a : FieldAccess) : BindingKind → Bool
  | .fieldRead => a.read
  | .fieldWrite => a.write
  | _ => false

namespace Binding

variable {b : Binding} {typeName : String}

/-- The binding of the given kind for a field. -/
def ofAccess (kind : BindingKind) (typeName : String) (f : FieldMeta C) : Binding where
  kind
  qualifiedName := qualify typeName f.name
  signature := qualify typeName f.name ++ ": " ++ f.kind.text

/-- A field is listed for reading, for writing, or both, as its access permits. -/
theorem mem_ofField_iff {f : FieldMeta C} :
    b ∈ ofField typeName f ↔ f.access.permits b.kind ∧ ofAccess b.kind typeName f = b := by
  obtain ⟨kind, q, s⟩ := b
  rcases access : f.access with ⟨read, write⟩
  cases kind <;> cases read <;> cases write <;>
    simp [ofField, ofAccess, FieldAccess.permits, access, eq_comm]

/-- The bindings of a class are its constructor, the accesses to its fields, and its methods. -/
theorem mem_ofClass_iff {e : ClassEntry C} :
    b ∈ ofClass e ↔
      (∃ c, e.constructor = some c ∧ ofConstructor e.name c = b) ∨
        (∃ f ∈ e.fields, f.access.permits b.kind ∧ ofAccess b.kind e.name f = b) ∨
          ∃ x ∈ e.methods, ofMethod e.name x = b := by
  simp only [ofClass, List.mem_append, Option.mem_toList, Option.map_eq_some_iff,
    List.mem_flatMap, mem_ofField_iff, List.mem_map, or_assoc]

/-- Every binding of a class tells which class that is. -/
theorem ownerOf_of_mem {e : ClassEntry C} (undotted : Undotted e.name) (mem : b ∈ ofClass e) :
    ownerOf b.qualifiedName = e.name := by
  rcases mem_ofClass_iff.1 mem with ⟨c, -, rfl⟩ | ⟨f, -, -, shown⟩ | ⟨x, -, rfl⟩
  · exact ownerOf_undotted undotted
  · rw [← shown]
    exact ownerOf_qualify undotted
  · exact ownerOf_qualify undotted

end Binding

/-! ## Looking bindings up -/

namespace Registry

/-- The binding of a field, found under the name of its class. -/
def resolveAccess? (r : Registry C) (kind : BindingKind) (q : String) : Option Binding := do
  let e ← (r.classNamed (Binding.ownerOf q)).toOption
  let f ← (e.field (Binding.memberOf q)).toOption
  if f.access.permits kind then some (.ofAccess kind e.name f) else none

/-- The binding that is found where the kind and the qualified name say. -/
def resolve? (r : Registry C) (kind : BindingKind) (q : String) : Option Binding :=
  match kind with
  | .function => do
    let f ← (r.function q).toOption
    some (.ofFunction f)
  | .constructor => do
    let e ← (r.classNamed q).toOption
    e.constructor.map (.ofConstructor e.name)
  | .method mode => do
    let e ← (r.classNamed (Binding.ownerOf q)).toOption
    let x ← (e.method (Binding.memberOf q)).toOption
    if x.receiver = mode then some (.ofMethod e.name x) else none
  | kind => r.resolveAccess? kind q

variable {r : Registry C} {kind : BindingKind} {q : String} {b : Binding}

theorem resolve?_function_iff :
    r.resolve? .function q = some b ↔ ∃ f ∈ r.functions, f.name = q ∧ .ofFunction f = b := by
  simp only [resolve?, Option.bind_eq_bind, toOption_bind_eq_some_iff, function_eq_ok_iff,
    Option.some.injEq, and_assoc]

theorem resolve?_constructor_iff :
    r.resolve? .constructor q = some b ↔
      ∃ e ∈ r.classes, e.name = q ∧ ∃ c, e.constructor = some c ∧ .ofConstructor e.name c = b := by
  simp only [resolve?, Option.bind_eq_bind, toOption_bind_eq_some_iff, classNamed_eq_ok_iff,
    Option.map_eq_some_iff, and_assoc]

/-- A method resolves by its owner and its name, and only as of the mode that it has. -/
theorem resolve?_method_iff {mode : ReceiverMode} :
    r.resolve? (.method mode) q = some b ↔
      ∃ e ∈ r.classes, e.name = Binding.ownerOf q ∧ ∃ x ∈ e.methods,
        x.name = Binding.memberOf q ∧ x.receiver = mode ∧ .ofMethod e.name x = b := by
  simp only [resolve?, Option.bind_eq_bind, toOption_bind_eq_some_iff, classNamed_eq_ok_iff,
    ClassEntry.method_eq_ok_iff, Option.ite_none_right_eq_some, Option.some.injEq, and_assoc]

/-- An access resolves by its owner and its name, if the field permits it. -/
theorem resolveAccess?_iff :
    r.resolveAccess? kind q = some b ↔
      ∃ e ∈ r.classes, e.name = Binding.ownerOf q ∧ ∃ f ∈ e.fields,
        f.name = Binding.memberOf q ∧ f.access.permits kind ∧ .ofAccess kind e.name f = b := by
  simp only [resolveAccess?, Option.bind_eq_bind, toOption_bind_eq_some_iff, classNamed_eq_ok_iff,
    ClassEntry.field_eq_ok_iff, Option.ite_none_right_eq_some, Option.some.injEq, and_assoc]

/-- The bindings of a registry are its functions and those of its classes. -/
theorem mem_bindings_iff :
    b ∈ r.bindings ↔
      (∃ f ∈ r.functions, .ofFunction f = b) ∨ ∃ e ∈ r.classes, b ∈ Binding.ofClass e := by
  simp only [bindings, List.mem_append, List.mem_map, List.mem_flatMap]

/-- A binding of a class resolves to itself : its name tells the class and the member. -/
theorem resolve?_of_mem_ofClass {e : ClassEntry C} (mem : e ∈ r.classes) (undotted : Undotted e.name)
    (listed : b ∈ Binding.ofClass e) : r.resolve? b.kind b.qualifiedName = some b := by
  have owner := (Binding.ownerOf_of_mem undotted listed).symm
  rcases Binding.mem_ofClass_iff.1 listed with ⟨c, present, rfl⟩ | ⟨f, field, permitted, shown⟩ |
    ⟨x, method, rfl⟩
  · exact resolve?_constructor_iff.2 ⟨e, mem, rfl, c, present, rfl⟩
  · have named : f.name = Binding.memberOf b.qualifiedName := by
      rw [← shown]
      exact (Binding.memberOf_qualify undotted).symm
    have found : r.resolveAccess? b.kind b.qualifiedName = some b :=
      resolveAccess?_iff.2 ⟨e, mem, owner, f, field, named, permitted, shown⟩
    cases kind : b.kind <;> rw [kind] at permitted found
    case fieldRead | fieldWrite => exact found
    all_goals cases permitted
  · have named := (Binding.memberOf_qualify (x := x.name) undotted).symm
    exact resolve?_method_iff.2 ⟨e, mem, owner, x, method, named, rfl, rfl⟩

/-- What resolves is listed. -/
theorem mem_bindings_of_resolve? (found : r.resolve? b.kind b.qualifiedName = some b) :
    b ∈ r.bindings := by
  rw [mem_bindings_iff]
  cases kind : b.kind <;> rw [kind] at found
  case function =>
    obtain ⟨f, mem, -, shown⟩ := resolve?_function_iff.1 found
    exact Or.inl ⟨f, mem, shown⟩
  case constructor =>
    obtain ⟨e, mem, -, c, present, shown⟩ := resolve?_constructor_iff.1 found
    exact Or.inr ⟨e, mem, Binding.mem_ofClass_iff.2 (Or.inl ⟨c, present, shown⟩)⟩
  case method mode =>
    obtain ⟨e, mem, -, x, method, -, -, shown⟩ := resolve?_method_iff.1 found
    exact Or.inr ⟨e, mem, Binding.mem_ofClass_iff.2 (Or.inr (Or.inr ⟨x, method, shown⟩))⟩
  case fieldRead | fieldWrite =>
    obtain ⟨e, mem, -, f, field, -, permitted, shown⟩ := resolveAccess?_iff.1 found
    rw [← kind] at permitted shown
    exact Or.inr
      ⟨e, mem, Binding.mem_ofClass_iff.2 (Or.inr (Or.inl ⟨f, field, permitted, shown⟩))⟩

/-- The bindings listed are those that their own kind and name resolve to. -/
theorem mem_bindings_iff_resolve? (undotted : ∀ e ∈ r.classes, Undotted e.name) :
    b ∈ r.bindings ↔ r.resolve? b.kind b.qualifiedName = some b := by
  refine ⟨fun listed => ?_, mem_bindings_of_resolve?⟩
  rcases mem_bindings_iff.1 listed with ⟨f, mem, rfl⟩ | ⟨e, mem, member⟩
  · exact resolve?_function_iff.2 ⟨f, mem, rfl, rfl⟩
  · exact resolve?_of_mem_ofClass mem (undotted e mem) member

end Registry

/-! ## No binding twice -/

/-- An index that finds the keys of a list finds each of them at one place. -/
theorem Index.Inverts.nodup {κ π α : Type} [DecidableEq κ] {ix : Index κ π} {placed : π → Option κ}
    {key : α → κ} {rows : List α} (inverts : ix.Inverts placed) {place : Nat → π}
    (injective : Function.Injective place)
    (keyed : ∀ i, placed (place i) = Index.keyAt key rows i) : (rows.map key).Nodup := by
  rw [List.nodup_iff_getElem?_ne_getElem?]
  intro i j less inside same
  have there : Index.keyAt key rows j = some (rows.map key)[j] := by
    rw [Index.keyAt, ← List.getElem?_map, List.getElem?_eq_getElem inside]
  have here : Index.keyAt key rows i = some (rows.map key)[j] := by
    rw [← there, Index.keyAt, Index.keyAt, ← List.getElem?_map, ← List.getElem?_map, same]
  have found := (inverts _ _).2 ((keyed j).trans there)
  rw [(inverts _ _).2 ((keyed i).trans here)] at found
  exact less.ne (injective (Option.some.inj found))

namespace Members

/-- No two fields of a class have a name in common, since the index finds each of them. -/
theorem nodup_fields (ms : Members C) : (ms.fields.map FieldMeta.name).Nodup :=
  ms.indexed.nodup (fun _ _ => Member.field.inj) fun _ => rfl

theorem nodup_methods (ms : Members C) : (ms.methods.map MethodMeta.name).Nodup :=
  ms.indexed.nodup (fun _ _ => Member.method.inj) fun _ => rfl

end Members

namespace Binding

theorem nodup_ofField (typeName : String) (f : FieldMeta C) : (ofField typeName f).Nodup := by
  rcases access : f.access with ⟨read, write⟩
  cases read <;> cases write <;> simp [ofField, access]

/-- A class is not listed with anything twice : sorts keep constructor, accesses and methods apart,
and names do the rest. -/
theorem nodup_ofClass (e : ClassEntry C) : (ofClass e).Nodup := by
  have fields : (e.fields.flatMap (ofField e.name)).Nodup := by
    refine List.nodup_flatMap.2 ⟨fun f _ => nodup_ofField e.name f, ?_⟩
    refine (List.pairwise_map.1 e.nodup_fields).imp fun {f g} different b here there => ?_
    obtain ⟨-, first⟩ := mem_ofField_iff.1 here
    obtain ⟨-, second⟩ := mem_ofField_iff.1 there
    exact different (qualify_right_inj.1 (congrArg qualifiedName (first.trans second.symm)))
  have methods : (e.methods.map (ofMethod e.name)).Nodup := by
    refine List.pairwise_map.2 ((List.pairwise_map.1 e.nodup_methods).imp fun different same => ?_)
    exact different (qualify_right_inj.1 (congrArg qualifiedName same))
  have constructors : (e.constructor.map (ofConstructor e.name)).toList.Nodup := by
    cases e.constructor <;> simp
  refine List.nodup_append.2 ⟨List.nodup_append.2 ⟨constructors, fields, ?_⟩, methods, ?_⟩
  · rintro b constructor _ field rfl
    obtain ⟨f, -, field⟩ := List.mem_flatMap.1 field
    obtain ⟨c, -, rfl⟩ := Option.map_eq_some_iff.1 (Option.mem_toList.1 constructor)
    cases (mem_ofField_iff.1 field).1
  · rintro b other _ method rfl
    obtain ⟨x, -, rfl⟩ := List.mem_map.1 method
    rcases List.mem_append.1 other with constructor | field
    · obtain ⟨c, -, same⟩ := Option.map_eq_some_iff.1 (Option.mem_toList.1 constructor)
      cases congrArg kind same
    · obtain ⟨f, -, field⟩ := List.mem_flatMap.1 field
      cases (mem_ofField_iff.1 field).1

end Binding

namespace Registry

variable {r : Registry C}

theorem nodup_functions : (r.functions.map FunctionMeta.name).Nodup :=
  r.functions_indexed.nodup Function.injective_id fun _ => rfl

theorem nodup_classes : (r.classes.map ClassEntry.name).Nodup :=
  r.classes_named.nodup Function.injective_id fun _ => rfl

/-- A registry lists nothing twice. Names without dots keep the members of different classes
apart. -/
theorem nodup_bindings (undotted : ∀ e ∈ r.classes, Undotted e.name) : r.bindings.Nodup := by
  have functions : (r.functions.map Binding.ofFunction).Nodup :=
    List.pairwise_map.2 ((List.pairwise_map.1 r.nodup_functions).imp fun different same =>
      different (congrArg Binding.qualifiedName same))
  have classes : (r.classes.flatMap Binding.ofClass).Nodup := by
    refine List.nodup_flatMap.2 ⟨fun e _ => Binding.nodup_ofClass e, ?_⟩
    refine (List.pairwise_map.1 r.nodup_classes).imp_of_mem ?_
    intro d e mem mem' different b here there
    have owner := Binding.ownerOf_of_mem (undotted d mem) here
    exact different (owner.symm.trans (Binding.ownerOf_of_mem (undotted e mem') there))
  refine List.nodup_append.2 ⟨functions, classes, ?_⟩
  rintro b function _ member rfl
  obtain ⟨f, -, rfl⟩ := List.mem_map.1 function
  obtain ⟨e, -, listed⟩ := List.mem_flatMap.1 member
  rcases Binding.mem_ofClass_iff.1 listed with ⟨c, -, same⟩ | ⟨_, -, permitted, -⟩ | ⟨x, -, same⟩
  · cases congrArg Binding.kind same
  · cases permitted
  · cases congrArg Binding.kind same

/-- Two bindings of one kind and name would resolve to the same. -/
theorem nodup_keys (undotted : ∀ e ∈ r.classes, Undotted e.name) :
    (r.bindings.map Binding.key).Nodup := by
  refine (nodup_bindings undotted).map_on fun a listed b listed' same => ?_
  obtain ⟨kind, name⟩ := Prod.mk.inj same
  have found := (mem_bindings_iff_resolve? undotted).1 listed
  rw [kind, name, (mem_bindings_iff_resolve? undotted).1 listed'] at found
  exact (Option.some.inj found).symm

end Registry

/-! ## In the order of declaration -/

namespace Module

/-- The method table of a class. -/
def tableOf? (m : Module C) (c : ClassMeta C) : Option (MethodTable C) :=
  m.tables.find? fun t => t.identity = c.identity

/-- The bindings that a class declares : its constructor, its fields with their permissions, and its
methods. -/
def bindingsOf (m : Module C) (c : ClassMeta C) : List Binding :=
  (((m.tableOf? c).bind MethodTable.constructor).map (.ofConstructor c.name)).toList ++
    c.fields.flatMap (Binding.ofField c.name) ++
    ((m.tableOf? c).elim [] MethodTable.methods).map (.ofMethod c.name)

/-- A class has one method table at most. -/
theorem tableOf?_of_mem {m : Module C} {c : ClassMeta C} {t : MethodTable C}
    (distinct : (m.tables.map MethodTable.identity).Nodup) (mem : t ∈ m.tables)
    (same : t.identity = c.identity) : m.tableOf? c = some t := by
  cases first : m.tableOf? c with
  | none => exact absurd (decide_eq_true same) (List.find?_eq_none.1 first t mem)
  | some u =>
    have same' : u.identity = c.identity := by simpa using List.find?_some first
    have one := List.inj_on_of_nodup_map distinct mem (List.mem_of_find?_eq_some first)
    rw [one (same.trans same'.symm)]

end Module

/-- The bindings of a registered class are those of its declaration, and of its table if there is
one. -/
theorem Registry.Represents.ofClass {r : Registry C} {m : Module C} (made : r.Represents m)
    (distinct : (m.tables.map MethodTable.identity).Nodup) {e : ClassEntry C} (mem : e ∈ r.classes) :
    Binding.ofClass e = m.bindingsOf e.declared := by
  rcases made.tables e mem with ⟨missing, methods, constructor, -⟩ |
    @⟨t, listed, same, methods, constructor, -⟩
  · have none : m.tableOf? e.declared = none :=
      List.find?_eq_none.2 fun t listed => decide_eq_true_iff.not.2 (missing t listed)
    rw [Module.bindingsOf, none, Binding.ofClass, methods, constructor]
    rfl
  · have found : m.tableOf? e.declared = some t := Module.tableOf?_of_mem distinct listed same
    rw [Module.bindingsOf, found, Binding.ofClass, methods, constructor]
    rfl

/-- The listing of a registry that is built has every binding once. -/
theorem Module.bindings_of_build {m : Module C} {r : Registry C} (built : m.build = .ok r)
    (undotted : ∀ c ∈ m.classes, Undotted c.name) :
    (r.bindings.map Binding.key).Nodup ∧
      (∀ b, b ∈ r.bindings ↔ r.resolve? b.kind b.qualifiedName = some b) ∧
      r.bindings = m.functions.map .ofFunction ++ m.classes.flatMap m.bindingsOf := by
  have made := represents_of_build built
  have undotted' : ∀ e ∈ r.classes, Undotted e.name := by
    intro e mem
    refine undotted e.declared ?_
    rw [← made.classes]
    exact List.mem_map_of_mem mem
  refine ⟨Registry.nodup_keys undotted', fun b => Registry.mem_bindings_iff_resolve? undotted', ?_⟩
  rw [Registry.bindings, made.functions, ← made.classes, List.flatMap_map]
  refine congrArg (_ ++ ·) (List.flatMap_congr fun e mem => ?_)
  exact made.ofClass (valid_of_build built).tables.identities mem

open Gallery in
/-- The listing of `sample` : functions first, then a point's constructor, its coordinates, each for
reading and for writing, and its methods. -/
theorem Module.bindings_of_build_sample :
    ∃ r, sample.build = .ok r ∧ (∀ c ∈ sample.classes, Undotted c.name) ∧
      (r.bindings.map Binding.key).Nodup ∧
      r.bindings.map Binding.qualifiedName =
        ["add", "fibonacci", "Point", "Point.x", "Point.x", "Point.y", "Point.y",
          "Point.distance_from_origin", "Point.translate", "Point.scaled"] ∧
      r.resolve? .fieldWrite "Point.x" = some ⟨.fieldWrite, "Point.x", "Point.x: float"⟩ := by
  have valid : sample.Valid := by decide +kernel
  have undotted : ∀ c ∈ sample.classes, Undotted c.name := by decide +kernel
  obtain ⟨r, built, -⟩ := valid.build
  obtain ⟨distinct, resolve, order⟩ := Module.bindings_of_build built undotted
  refine ⟨r, built, undotted, distinct, ?_,
    (resolve ⟨.fieldWrite, "Point.x", "Point.x: float"⟩).1 ?_⟩
  · rw [order]
    decide +kernel
  · rw [order]
    decide +kernel

end NativeBridge
