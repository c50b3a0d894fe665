import NativeBridge.Proofs.Registry.Listing
import NativeBridge.Proofs.Runtime.Access
import NativeBridge.Proofs.Runtime.ErrorKinds
import NativeBridge.Proofs.Runtime.Failure

/-!
# Fields that may be written

Whether a field may be written is said twice : by its access, which the listing shows, and by its
setter, which a write uses. Fields that are derived say the same both times
(`Property.coherent_toField`), but nothing else sees to it, and a module builds whatever its fields
say.

`Runtime.setField_writability` : a write is refused as one to a read-only field if and only if there
is no setter, and where class names have no dots a field is listed for writing if and only if its
access permits it. So listing and writing agree about a field if and only if it is
`FieldMeta.Coherent`. They may disagree either way (`Runtime.setField_incoherent`).
-/

namespace NativeBridge

variable {C : Catalog}

/-- The field has a setter if and only if its access permits writing. -/
def FieldMeta.Coherent (f : FieldMeta C) : Prop := f.access.write = f.setter.isSome

/-- Derived fields have a setter if their access permits writing. -/
theorem Property.coherent_toField {o : C.Obj} (p : Property C o) : p.toField.Coherent :=
  Option.isSome_map.symm

/-! ## Listed for writing -/

namespace Registry

/-- A binding of the kind is listed under the qualified name. -/
def Lists (r : Registry C) (kind : BindingKind) (q : String) : Prop :=
  ∃ b ∈ r.bindings, b.key = (kind, q)

variable {r : Registry C} {m : Module C} {c : ClassMeta C} {f : FieldMeta C} {q : String}

/-- A listing has the writes to fields that their access permits. -/
theorem lists_fieldWrite_iff :
    r.Lists .fieldWrite q ↔
      ∃ e ∈ r.classes, ∃ f ∈ e.fields, f.access.write ∧ Binding.qualify e.name f.name = q := by
  refine ⟨?_, ?_⟩
  · rintro ⟨b, listed, key⟩
    obtain ⟨kind, rfl⟩ := Prod.mk.inj key
    rcases mem_bindings_iff.1 listed with ⟨f, -, rfl⟩ | ⟨e, mem, member⟩
    · cases kind
    · rcases Binding.mem_ofClass_iff.1 member with ⟨c, -, rfl⟩ | ⟨f, field, permitted, shown⟩ |
        ⟨x, -, rfl⟩
      · cases kind
      · rw [kind] at permitted
        exact ⟨e, mem, f, field, permitted, congrArg Binding.qualifiedName shown⟩
      · cases kind
  · rintro ⟨e, mem, f, field, permitted, rfl⟩
    refine ⟨.ofAccess .fieldWrite e.name f, mem_bindings_iff.2 (Or.inr ⟨e, mem, ?_⟩), rfl⟩
    exact Binding.mem_ofClass_iff.2 (Or.inr (Or.inl ⟨f, field, permitted, rfl⟩))

/-- What is listed for writing is what the module declares so. -/
theorem Represents.lists_fieldWrite_iff (made : r.Represents m) :
    r.Lists .fieldWrite q ↔
      ∃ c ∈ m.classes, ∃ f ∈ c.fields, f.access.write ∧ Binding.qualify c.name f.name = q := by
  simp only [Registry.lists_fieldWrite_iff, ← made.classes, List.mem_map, exists_exists_and_eq_and]
  rfl

/-- Without dots in the names of classes, a qualified name is that of one field. -/
theorem Represents.lists_declared_iff (made : r.Represents m) (stand : Module.ClassesStand m.classes)
    (undotted : ∀ c ∈ m.classes, Undotted c.name) (declared : c ∈ m.classes)
    (field : f ∈ c.fields) :
    r.Lists .fieldWrite (Binding.qualify c.name f.name) ↔ f.access.write := by
  rw [made.lists_fieldWrite_iff]
  refine ⟨?_, fun permitted => ⟨c, declared, f, field, permitted, rfl⟩⟩
  rintro ⟨c', declared', f', field', permitted, same⟩
  have owner := Binding.ownerOf_qualify (x := f'.name) (undotted c' declared')
  rw [same, Binding.ownerOf_qualify (undotted c declared)] at owner
  obtain rfl := List.inj_on_of_nodup_map stand.names declared declared' owner
  have named := Binding.qualify_right_inj.1 same
  rwa [← List.inj_on_of_nodup_map (stand.fields c declared) field' field named]

end Registry

/-! ## Refused as read-only -/

namespace Runtime

variable {rt : Runtime C} {h : Handle} {name : String} {v : HostValue} {e : ClassEntry C}
  {f : FieldMeta C}

/-- Writing the value is refused because the field is read-only. -/
def Unwritable (rt : Runtime C) (h : Handle) (name : String) (v : HostValue) : Prop :=
  ∃ err, (rt.perform (.setField h name v)).outcome = .error err ∧ err.kind = .readOnlyField

/-- A field without a setter is not written to, whatever its access says. -/
theorem perform_setField_of_none (entry : rt.classFor h = .ok e) (found : e.field name = .ok f)
    (readOnly : f.setter = none) :
    rt.perform (.setField h name v) = ⟨.error (.ofBinding (.readOnlyField e.name f.name)), rt, []⟩ := by
  rw [perform, setField, entry]
  simp only [found, readOnly]
  rfl

/-- A setter's code never says that a field is read-only, whatever it does. -/
theorem unwritable_iff (entry : rt.classFor h = .ok e) (found : e.field name = .ok f) :
    rt.Unwritable h name v ↔ f.setter = none := by
  refine ⟨fun ⟨err, failed, kind⟩ => ?_, fun readOnly => ?_⟩
  · by_contra writable
    obtain ⟨native, setter⟩ := Option.ne_none_iff_exists'.1 writable
    rw [perform, setField, entry] at failed
    simp only [found, setter] at failed
    have failures : err.kind ∈ callFailures :=
      rt.kind_of_finish (.bind (Invoker.invoke_failsAs_of_length rfl) _) failed
    rw [kind] at failures
    exact absurd failures (by decide)
  · exact ⟨_, congrArg Step.outcome (perform_setField_of_none entry found readOnly), rfl⟩

/-- Through a handle of a declared class each of its fields is found. -/
theorem field_of_declared {m : Module C} {r : Registry C} (made : r.Represents m)
    {c : ClassMeta C} (declared : c ∈ m.classes) {f : FieldMeta C} (field : f ∈ c.fields)
    (config : Config) {heap : Heap C} {h : Handle} {x : Occupant C}
    (live : heap.occupant? h = some x) (own : h.identity = c.identity) :
    ∃ e, (⟨r, config, heap⟩ : Runtime C).classFor h = .ok e ∧ e.field f.name = .ok f ∧
      e.declared = c := by
  rw [← made.classes] at declared
  obtain ⟨e, mem, rfl⟩ := List.mem_map.1 declared
  exact ⟨e, classFor_eq_ok_iff.2 ⟨⟨x, live⟩, mem, own.symm⟩,
    ClassEntry.field_eq_ok_iff.2 ⟨field, rfl⟩, rfl⟩

/-- A write is refused if and only if there is no setter, and then it changes nothing; the listing
goes by the access. -/
theorem setField_writability {m : Module C} {r : Registry C} (built : m.build = .ok r)
    {c : ClassMeta C} (declared : c ∈ m.classes) {f : FieldMeta C} (field : f ∈ c.fields)
    (config : Config) {heap : Heap C} {h : Handle} {x : Occupant C}
    (live : heap.occupant? h = some x) (own : h.identity = c.identity) (v : HostValue) :
    let rt : Runtime C := ⟨r, config, heap⟩
    let listed := r.Lists .fieldWrite (Binding.qualify c.name f.name)
    (rt.Unwritable h f.name v ↔ f.setter = none) ∧
      (f.setter = none → rt.perform (.setField h f.name v) =
        ⟨.error (.ofBinding (.readOnlyField c.name f.name)), rt, []⟩) ∧
      (listed ↔ ∃ c' ∈ m.classes, ∃ f' ∈ c'.fields, f'.access.write ∧
        Binding.qualify c'.name f'.name = Binding.qualify c.name f.name) ∧
      ((∀ c ∈ m.classes, Undotted c.name) →
        (listed ↔ f.access.write) ∧ ((listed ↔ ¬rt.Unwritable h f.name v) ↔ f.Coherent)) := by
  intro rt listed
  have made := Module.represents_of_build built
  have stand := (Module.valid_of_build built).classes
  obtain ⟨e, entry, found, rfl⟩ := field_of_declared made declared field config live own
  have refused : rt.Unwritable h f.name v ↔ f.setter = none := unwritable_iff entry found
  refine ⟨refused, perform_setField_of_none entry found, made.lists_fieldWrite_iff,
    fun undotted => ?_⟩
  have permitted : listed ↔ f.access.write :=
    made.lists_declared_iff stand undotted declared field
  refine ⟨permitted, ?_⟩
  have writable : ¬rt.Unwritable h f.name v ↔ f.setter.isSome :=
    refused.not.trans Option.isSome_iff_ne_none.symm
  rw [permitted, writable]
  exact Bool.eq_iff_iff.symm

end Runtime

namespace Gallery.Vault

/-- The number of a token. -/
def number : Property catalog .token := ⟨"id", .int .i64, Token.id, some fun n _ => ⟨n⟩⟩

/-- The same field, said not to permit writing. -/
def ajar : FieldMeta catalog := { number.toField with name := "ajar", access := ⟨true, false⟩ }

/-- The same field, without its setter. -/
def shut : FieldMeta catalog := { number.toField with name := "shut", setter := none }

def tokens : ClassMeta catalog where
  name := "Token"
  identity := catalog.identity .token
  sharing := .exclusive
  fields := [number.toField, ajar, shut]
  copy := none

def vault : Module catalog := { name := "vault", classes := [tokens] }

/-- One token is live. -/
def contents : Heap catalog := ⟨#[⟨0, some ⟨.token, ⟨.wrap .i64 7⟩, 1, false⟩⟩], [], 1⟩

def token : Handle := ⟨0, 0, catalog.identity .token⟩

end Gallery.Vault

namespace Runtime

open Gallery Vault in
/-- The derived field of a token is listed for writing and can be written. -/
theorem setField_writability_token :
    ∃ r, vault.build = .ok r ∧ (∀ c ∈ vault.classes, Undotted c.name) ∧ number.toField.Coherent ∧
      r.Lists .fieldWrite "Token.id" ∧
      ¬(⟨r, {}, contents⟩ : Runtime catalog).Unwritable token "id" (.int (.wrap .i64 9)) := by
  have valid : vault.Valid := by decide +kernel
  have undotted : ∀ c ∈ vault.classes, Undotted c.name := by decide +kernel
  obtain ⟨r, built, -⟩ := valid.build
  have live : contents.occupant? token = some ⟨.token, ⟨.wrap .i64 7⟩, 1, false⟩ := rfl
  obtain ⟨-, -, -, told⟩ := setField_writability built (List.mem_singleton_self tokens)
    (List.mem_cons_self ..) {} live rfl (.int (.wrap .i64 9))
  obtain ⟨permitted, agree⟩ := told undotted
  have listed := permitted.2 rfl
  have coherent := number.coherent_toField
  exact ⟨r, built, undotted, coherent, listed, (agree.2 coherent).1 listed⟩

open Gallery Vault in
/-- A field that is not listed for writing is written, and a write to one that is listed is refused. -/
theorem setField_incoherent :
    ∃ r, vault.build = .ok r ∧ contents.Reachable ∧
      let rt : Runtime catalog := ⟨r, {}, contents⟩
      (¬r.Lists .fieldWrite "Token.ajar" ∧
        (rt.perform (.setField token "ajar" (.int (.wrap .i64 9)))).outcome = .ok .done) ∧
      (r.Lists .fieldWrite "Token.shut" ∧
        rt.Unwritable token "shut" (.int (.wrap .i64 9))) := by
  have valid : vault.Valid := by decide +kernel
  have undotted : ∀ c ∈ vault.classes, Undotted c.name := by decide +kernel
  obtain ⟨r, built, made⟩ := valid.build
  have allocate : Heap.allocate (C := catalog) .token ⟨.wrap .i64 7⟩ .empty =
      .ok (token, contents) := rfl
  have live : contents.occupant? token = some ⟨.token, ⟨.wrap .i64 7⟩, 1, false⟩ := rfl
  have listed := List.mem_singleton_self tokens
  have ajarField : ajar ∈ tokens.fields := by simp [tokens]
  have shutField : shut ∈ tokens.fields := by simp [tokens]
  obtain ⟨e, entry, found, -⟩ := field_of_declared made listed ajarField {} live rfl
  obtain ⟨d, entry', found', -⟩ := field_of_declared made listed shutField {} live rfl
  refine ⟨r, built, ⟨_, .allocate (.refl .empty) allocate⟩, ⟨?_, ?_⟩, ?_, ?_⟩
  · exact (made.lists_declared_iff valid.classes undotted listed ajarField).not.2 nofun
  · rw [perform, setField, entry]
    dsimp only
    rw [show e.field "ajar" = .ok ajar from found]
    rfl
  · exact (made.lists_declared_iff valid.classes undotted listed shutField).2 rfl
  · exact (unwritable_iff entry' found').2 rfl

end Runtime

end NativeBridge
