import NativeBridge.Descriptor
import NativeBridge.Error.Binding
import NativeBridge.Error.Registration
import NativeBridge.Index

/-!
# Entries of classes

A `ClassEntry` is a class as the registry keeps it, with the methods of its method table. Fields and
methods of a class share one namespace (`Members`), and one index finds them both : it gives each name
the list it is in and the place in that list. Members are claimed one after the other, and a name that
has been claimed is refused.
-/

namespace NativeBridge

/-- The place of a member of a class. -/
inductive Member
  | field (i : Nat)
  | method (i : Nat)
  deriving DecidableEq

/-- The name of the member at a place. -/
def Member.nameIn {C : Catalog} (fields : List (FieldMeta C)) (methods : List (MethodMeta C)) :
    Member → Option String
  | field i => Index.keyAt FieldMeta.name fields i
  | method i => Index.keyAt MethodMeta.name methods i

/-- The members of a class, in the order of their declaration. -/
structure Members (C : Catalog) where
  fields : List (FieldMeta C)
  methods : List (MethodMeta C)
  index : Index String Member
  indexed : index.Inverts (Member.nameIn fields methods)

/-- A registered class with its methods. -/
structure ClassEntry (C : Catalog) extends Members C where
  name : String
  identity : Identity
  sharing : Sharing
  copy : Option (CopyRule C)
  constructor : Option (ConstructorMeta C) := none
  hasTable : Bool := false

namespace Members

variable {C : Catalog}

def empty : Members C where
  fields := []
  methods := []
  index := {}
  indexed := Index.Inverts.empty.congr fun p => by cases p <;> rfl

/-- Adds a field behind the others, under a name that is free. -/
def pushField (ms : Members C) (f : FieldMeta C) (free : ms.index.find? f.name = none) :
    Members C where
  fields := ms.fields ++ [f]
  methods := ms.methods
  index := ms.index.insert f.name (.field ms.fields.length)
  indexed := by
    refine ms.indexed.insert free Index.keyAt_length ?_ ?_
    · rw [Member.nameIn, Index.keyAt_concat, if_pos rfl]
    · rintro (i | i) other
      · rw [Member.nameIn, Index.keyAt_concat, if_neg fun last => other (by rw [last])]
        rfl
      · rfl

/-- Adds a method behind the others, under a name that is free. -/
def pushMethod (ms : Members C) (m : MethodMeta C) (free : ms.index.find? m.name = none) :
    Members C where
  fields := ms.fields
  methods := ms.methods ++ [m]
  index := ms.index.insert m.name (.method ms.methods.length)
  indexed := by
    refine ms.indexed.insert free Index.keyAt_length ?_ ?_
    · rw [Member.nameIn, Index.keyAt_concat, if_pos rfl]
    · rintro (i | i) other
      · rfl
      · rw [Member.nameIn, Index.keyAt_concat, if_neg fun last => other (by rw [last])]
        rfl

/-- A name can be claimed if it is free. -/
def claim (owner : String) (ms : Members C) (name : String) :
    Except RegistrationError (PLift (ms.index.find? name = none)) :=
  if free : ms.index.find? name = none then .ok ⟨free⟩
  else .error (.duplicateMember owner name)

def addField (owner : String) (ms : Members C) (f : FieldMeta C) :
    Except RegistrationError (Members C) := do
  let free ← ms.claim owner f.name
  .ok (ms.pushField f free.down)

def addMethod (owner : String) (ms : Members C) (m : MethodMeta C) :
    Except RegistrationError (Members C) := do
  let free ← ms.claim owner m.name
  .ok (ms.pushMethod m free.down)

def field? (ms : Members C) (name : String) : Option (FieldMeta C) :=
  match ms.index.find? name with
  | some (.field i) => ms.fields[i]?
  | _ => none

def method? (ms : Members C) (name : String) : Option (MethodMeta C) :=
  match ms.index.find? name with
  | some (.method i) => ms.methods[i]?
  | _ => none

end Members

namespace ClassEntry

variable {C : Catalog}

/-- An entry under the given name and identity. -/
abbrev Of (C : Catalog) (name : String) (identity : Identity) : Type :=
  { e : ClassEntry C // e.name = name ∧ e.identity = identity }

def ofMeta (c : ClassMeta C) : Except RegistrationError (Of C c.name c.identity) := do
  let members ← c.fields.foldlM (Members.addField c.name) Members.empty
  .ok
    ⟨{ toMembers := members, name := c.name, identity := c.identity, sharing := c.sharing,
       copy := c.copy }, rfl, rfl⟩

/-- Adds the method table of the class. -/
def attach (e : ClassEntry C) (t : MethodTable C) :
    Except RegistrationError (Of C e.name e.identity) :=
  if e.hasTable then .error (.duplicateMethodTable e.name)
  else do
    let members ← t.methods.foldlM (Members.addMethod e.name) e.toMembers
    .ok
      ⟨{ e with toMembers := members, constructor := t.constructor, hasTable := true }, rfl, rfl⟩

def field (e : ClassEntry C) (name : String) : Except BindingError (FieldMeta C) :=
  match e.field? name with
  | some f => .ok f
  | none => .error (.noSuchField e.name name)

def method (e : ClassEntry C) (name : String) : Except BindingError (MethodMeta C) :=
  match e.method? name with
  | some m => .ok m
  | none => .error (.noSuchMethod e.name name)

end ClassEntry

end NativeBridge
