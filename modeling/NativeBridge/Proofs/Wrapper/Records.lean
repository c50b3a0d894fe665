import Mathlib.Logic.Equiv.Defs
import NativeBridge.Gallery.Kitchen
import NativeBridge.Proofs.Marshal.ReadBack
import NativeBridge.Proofs.Native.Run
import NativeBridge.Proofs.Registry.Lookup

/-!
# Classes of records

An instance of a record type is what its fields hold, independently of each other (`Layout`). An exposed
field reads one of them and writes no other (`Property.Accesses`), so that reading after writing finds
what was written, or what was there before, and writes to different fields do not get into each
other's way.

`ClassEntry.Derived` is a class whose fields are exposed like this, each under its own name, with types
whose copies are equal to the original.
-/

namespace NativeBridge

variable {C : Catalog} {o : C.Obj}

/-! ## Records -/

/-- A type whose instances are made of independent fields. -/
structure Layout (C : Catalog) (o : C.Obj) where
  Field : Type
  Content : Field → Type
  parts : C.Instance o ≃ ((i : Field) → Content i)

/-- The property reads and writes one field of the record. -/
def Property.Accesses (l : Layout C o) (p : Property C o) (i : l.Field) : Prop :=
  ∃ content : l.Content i ≃ p.type.Value, (∀ s, p.get s = content (l.parts s i)) ∧
    ∀ set ∈ p.set, ∀ v s, l.parts (set v s) i = content.symm v ∧
      ∀ j, j ≠ i → l.parts (set v s) j = l.parts s j

namespace Property.Accesses

variable {l : Layout C o} {p q : Property C o} {i j : l.Field}
  {set : p.type.Value → C.Instance o → C.Instance o}
  {set' : q.type.Value → C.Instance o → C.Instance o}

theorem get_set (accesses : p.Accesses l i) (writes : p.set = some set) (v : p.type.Value)
    (s : C.Instance o) : p.get (set v s) = v := by
  obtain ⟨content, get, write⟩ := accesses
  rw [get, (write set writes v s).1, Equiv.apply_symm_apply]

theorem get_set_of_ne (accesses : p.Accesses l i) (other : q.Accesses l j) (ne : j ≠ i)
    (writes : p.set = some set) (v : p.type.Value) (s : C.Instance o) :
    q.get (set v s) = q.get s := by
  obtain ⟨_, -, write⟩ := accesses
  obtain ⟨_, get, -⟩ := other
  rw [get, get, (write set writes v s).2 j ne]

theorem set_set (accesses : p.Accesses l i) (writes : p.set = some set) (v w : p.type.Value)
    (s : C.Instance o) : set w (set v s) = set w s := by
  obtain ⟨content, -, write⟩ := accesses
  refine l.parts.injective (funext fun j => ?_)
  by_cases same : j = i
  · subst same
    rw [(write set writes w _).1, (write set writes w _).1]
  · rw [(write set writes w _).2 j same, (write set writes v _).2 j same,
      (write set writes w _).2 j same]

theorem set_comm (accesses : p.Accesses l i) (other : q.Accesses l j) (ne : j ≠ i)
    (writes : p.set = some set) (writes' : q.set = some set') (v : p.type.Value)
    (w : q.type.Value) (s : C.Instance o) : set' w (set v s) = set v (set' w s) := by
  obtain ⟨_, -, write⟩ := accesses
  obtain ⟨_, -, write'⟩ := other
  refine l.parts.injective (funext fun k => ?_)
  by_cases first : k = i
  · subst first
    rw [(write' set' writes' w _).2 k ne.symm, (write set writes v _).1,
      (write set writes v _).1]
  · rw [(write set writes v _).2 k first]
    by_cases second : k = j
    · subst second
      rw [(write' set' writes' w _).1, (write' set' writes' w _).1]
    · rw [(write' set' writes' w _).2 k second, (write' set' writes' w _).2 k second,
        (write set writes v _).2 k first]

end Property.Accesses

/-! ## Classes -/

/-- The class exposes fields of a record, each under its own name and by a type that is copied
faithfully. No record is a field of itself. -/
structure ClassEntry.Derived (e : ClassEntry C) (o : C.Obj) (ps : List (Property C o)) : Prop where
  fields : e.fields = ps.map Property.toField
  record : ∃ (l : Layout C o) (place : String → l.Field),
    (∀ p ∈ ps, p.Accesses l (place p.name)) ∧
      ∀ p ∈ ps, ∀ q ∈ ps, place p.name = place q.name → p.name = q.name
  faithful : ∀ p ∈ ps, p.type.Faithful
  finite : ∀ p ∈ ps, p.type.content ≠ .object o

namespace ClassEntry.Derived

variable {e : ClassEntry C} {ps : List (Property C o)} {p q : Property C o}
  {set : p.type.Value → C.Instance o → C.Instance o}
  {set' : q.type.Value → C.Instance o → C.Instance o}

theorem field (derived : e.Derived o ps) (mem : p ∈ ps) : e.field p.name = .ok p.toField :=
  ClassEntry.field_eq_ok_iff.2 ⟨derived.fields ▸ List.mem_map_of_mem mem, rfl⟩

/-- Every field of a derived class comes from a property. -/
theorem exists_of_field (derived : e.Derived o ps) {name : String} {f : FieldMeta C}
    (found : e.field name = .ok f) : ∃ p ∈ ps, p.name = name ∧ f = p.toField := by
  obtain ⟨mem, rfl⟩ := ClassEntry.field_eq_ok_iff.1 found
  rw [derived.fields] at mem
  obtain ⟨p, own, rfl⟩ := List.mem_map.1 mem
  exact ⟨p, own, rfl, rfl⟩

/-- In a derived class what is written to a field is read from it. -/
theorem get_set (derived : e.Derived o ps) (mem : p ∈ ps) (writes : p.set = some set)
    (v : p.type.Value) (s : C.Instance o) : p.get (set v s) = v := by
  obtain ⟨l, place, accesses, -⟩ := derived.record
  exact (accesses p mem).get_set writes v s

/-- In a derived class no write reaches another field. -/
theorem get_set_of_ne (derived : e.Derived o ps) (mem : p ∈ ps) (mem' : q ∈ ps)
    (ne : q.name ≠ p.name) (writes : p.set = some set) (v : p.type.Value) (s : C.Instance o) :
    q.get (set v s) = q.get s := by
  obtain ⟨l, place, accesses, apart⟩ := derived.record
  exact (accesses p mem).get_set_of_ne (accesses q mem') (fun same => ne (apart q mem' p mem same))
    writes v s

/-- In a derived class the later of two writes to a field stays. -/
theorem set_set (derived : e.Derived o ps) (mem : p ∈ ps) (writes : p.set = some set)
    (v w : p.type.Value) (s : C.Instance o) : set w (set v s) = set w s := by
  obtain ⟨l, place, accesses, -⟩ := derived.record
  exact (accesses p mem).set_set writes v w s

/-- In a derived class writes to two fields can change places. -/
theorem set_comm (derived : e.Derived o ps) (mem : p ∈ ps) (mem' : q ∈ ps)
    (ne : q.name ≠ p.name) (writes : p.set = some set) (writes' : q.set = some set')
    (v : p.type.Value) (w : q.type.Value) (s : C.Instance o) :
    set' w (set v s) = set v (set' w s) := by
  obtain ⟨l, place, accesses, apart⟩ := derived.record
  exact (accesses p mem).set_comm (accesses q mem') (fun same => ne (apart q mem' p mem same))
    writes writes' v w s

end ClassEntry.Derived

namespace Gallery.Segment

inductive Part
  | a | b | mid

namespace Part

def Content : Part → Type
  | a | b => Point
  | mid => Option Point

def name : Part → String
  | a => "a"
  | b => "b"
  | mid => "mid"

def named : String → Part
  | "a" => a
  | "b" => b
  | _ => mid

end Part

def layout : Layout catalog .segment where
  Field := Part
  Content := Part.Content
  parts :=
    { toFun := fun s => fun
        | .a => s.a
        | .b => s.b
        | .mid => s.mid
      invFun := fun parts => ⟨parts .a, parts .b, parts .mid⟩
      left_inv := fun _ => rfl
      right_inv := fun _ => funext fun
        | .a | .b | .mid => rfl }

/-- The class of segments exposes three fields of a record. -/
theorem derived {e : ClassEntry catalog} (declared : e.fields = fields.map Property.toField) :
    e.Derived .segment fields where
  fields := declared
  record := by
    have names : ∀ p ∈ fields, (Part.named p.name).name = p.name :=
      List.forall_mem_cons.2 ⟨rfl, List.forall_mem_cons.2 ⟨rfl, List.forall_mem_singleton.2 rfl⟩⟩
    refine ⟨layout, Part.named, ?_, fun p mem q mem' same => ?_⟩
    · refine List.forall_mem_cons.2 ⟨?_, List.forall_mem_cons.2 ⟨?_, List.forall_mem_singleton.2 ?_⟩⟩
      all_goals
        refine ⟨Equiv.refl _, fun s => rfl, ?_⟩
        rintro set ⟨⟩ v s
        refine ⟨rfl, ?_⟩
        rintro (_ | _ | _) other
        all_goals first
          | rfl
          | exact absurd rfl other
    · rw [← names p mem, same, names q mem']
  faithful := by
    refine List.forall_mem_cons.2 ⟨fun _ => rfl, List.forall_mem_cons.2 ⟨fun _ => rfl, ?_⟩⟩
    refine List.forall_mem_singleton.2 ?_
    rintro (_ | p) <;> rfl
  finite :=
    List.forall_mem_cons.2 ⟨nofun, List.forall_mem_cons.2 ⟨nofun, List.forall_mem_singleton.2 nofun⟩⟩

end Gallery.Segment

namespace Gallery.Tag

inductive Part
  | id | weight | note | type | secret

namespace Part

def Content : Part → Type
  | id => Fixed .u8
  | weight => Binary32
  | note => Option String
  | type => Bool
  | secret => Fixed .i64

def name : Part → String
  | id => "id"
  | weight => "weight"
  | note => "note"
  | type => "type"
  | secret => "secret"

def named : String → Part
  | "id" => id
  | "weight" => weight
  | "note" => note
  | "type" => type
  | _ => secret

end Part

def layout : Layout catalog .tag where
  Field := Part
  Content := Part.Content
  parts :=
    { toFun := fun t => fun
        | .id => t.id
        | .weight => t.weight
        | .note => t.note
        | .type => t.type
        | .secret => t.secret
      invFun := fun parts => ⟨parts .id, parts .weight, parts .note, parts .type, parts .secret⟩
      left_inv := fun _ => rfl
      right_inv := fun _ => funext fun
        | .id | .weight | .note | .type | .secret => rfl }

/-- The class of tags exposes four fields of a record. -/
theorem derived {e : ClassEntry catalog} (declared : e.fields = fields.map Property.toField) :
    e.Derived .tag fields where
  fields := declared
  record := by
    have names : ∀ p ∈ fields, (Part.named p.name).name = p.name :=
      List.forall_mem_cons.2 ⟨rfl, List.forall_mem_cons.2 ⟨rfl, List.forall_mem_cons.2 ⟨rfl, List.forall_mem_singleton.2 rfl⟩⟩⟩
    refine ⟨layout, Part.named, ?_, fun p mem q mem' same => ?_⟩
    · refine List.forall_mem_cons.2 ⟨?_, List.forall_mem_cons.2 ⟨?_, List.forall_mem_cons.2 ⟨?_, List.forall_mem_singleton.2 ?_⟩⟩⟩
      all_goals
        refine ⟨Equiv.refl _, fun s => rfl, ?_⟩
        rintro set ⟨⟩ v s
        refine ⟨rfl, ?_⟩
        rintro (_ | _ | _ | _ | _) other
        all_goals first
          | rfl
          | exact absurd rfl other
    · rw [← names p mem, same, names q mem']
  faithful := by
    refine List.forall_mem_cons.2 ⟨fun _ => rfl, List.forall_mem_cons.2 ⟨fun _ => rfl, ?_⟩⟩
    refine List.forall_mem_cons.2 ⟨?_, List.forall_mem_singleton.2 fun _ => rfl⟩
    rintro (_ | p) <;> rfl
  finite := List.forall_mem_cons.2 ⟨nofun, List.forall_mem_cons.2 ⟨nofun, List.forall_mem_cons.2 ⟨nofun, List.forall_mem_singleton.2 nofun⟩⟩⟩

end Gallery.Tag

end NativeBridge
