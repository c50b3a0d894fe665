import NativeBridge.Entry
import NativeBridge.Module

/-!
# Registries

A `Registry` is the frozen table of a module's bindings. `Module.build` makes it: functions first, then
classes, then method tables, each declaration checked against those before it. Functions have distinct
names; classes have distinct names and distinct identities; a method table belongs to the class of its
identity, each class has at most one, and a class's fields and methods share one namespace. Lookups go
through indexes of the declarations' places; classes are also found by the identity that handles carry.
A registry whose indexes do not agree with its lists cannot be made.
-/

namespace NativeBridge

/-- A frozen table of bindings. -/
structure Registry (C : Catalog) where
  name : String
  functions : List (FunctionMeta C)
  functionIndex : Index String Nat
  classes : List (ClassEntry C)
  classIndex : Index String Nat
  /-- The same places by what handles carry. -/
  identityIndex : Index Identity Nat
  functions_indexed : functionIndex.Inverts (Index.keyAt FunctionMeta.name functions)
  classes_named : classIndex.Inverts (Index.keyAt ClassEntry.name classes)
  classes_identified : identityIndex.Inverts (Index.keyAt ClassEntry.identity classes)

namespace Registry

variable {C : Catalog}

def empty (name : String) : Registry C where
  name
  functions := []
  functionIndex := {}
  classes := []
  classIndex := {}
  identityIndex := {}
  functions_indexed := .empty
  classes_named := .empty
  classes_identified := .empty

/-- Adds a function behind the others, under a name that is free. -/
def pushFunction (r : Registry C) (f : FunctionMeta C)
    (free : r.functionIndex.find? f.name = none) : Registry C :=
  { r with
    functions := r.functions ++ [f]
    functionIndex := r.functionIndex.insert f.name r.functions.length
    functions_indexed := r.functions_indexed.concat free }

/-- Adds a class behind the others, under a name and an identity that are free. -/
def pushClass (r : Registry C) (e : ClassEntry C) (name : r.classIndex.find? e.name = none)
    (identity : r.identityIndex.find? e.identity = none) : Registry C :=
  { r with
    classes := r.classes ++ [e]
    classIndex := r.classIndex.insert e.name r.classes.length
    identityIndex := r.identityIndex.insert e.identity r.classes.length
    classes_named := r.classes_named.concat name
    classes_identified := r.classes_identified.concat identity }

/-- Replaces the entry at a place by one of the same name and identity. -/
def setClass (r : Registry C) {i : Nat} (inside : i < r.classes.length) (e : ClassEntry C)
    (name : e.name = (r.classes.get ⟨i, inside⟩).name)
    (identity : e.identity = (r.classes.get ⟨i, inside⟩).identity) : Registry C :=
  { r with
    classes := r.classes.set i e
    classes_named := r.classes_named.set inside name
    classes_identified := r.classes_identified.set inside identity }

def registerFunction (r : Registry C) (f : FunctionMeta C) :
    Except RegistrationError (Registry C) :=
  if free : r.functionIndex.find? f.name = none then .ok (r.pushFunction f free)
  else .error (.duplicateFunction f.name)

def registerClass (r : Registry C) (c : ClassMeta C) : Except RegistrationError (Registry C) :=
  if free : r.classIndex.find? c.name = none ∧ r.identityIndex.find? c.identity = none then do
    let ⟨e, named, identified⟩ ← ClassEntry.ofMeta c
    .ok (r.pushClass e (named ▸ free.1) (identified ▸ free.2))
  else .error (.duplicateType c.name)

/-- Gives the class of a method table its methods. -/
def registerMethods (r : Registry C) (t : MethodTable C) :
    Except RegistrationError (Registry C) :=
  match found : r.identityIndex.find? t.identity with
  | none => .error (.methodsWithoutClass t.typeName)
  | some i => do
    have inside := r.classes_identified.lt_length found
    let ⟨e, named, identified⟩ ← (r.classes.get ⟨i, inside⟩).attach t
    .ok (r.setClass inside e named identified)

def function (r : Registry C) (name : String) : Except BindingError (FunctionMeta C) :=
  match r.functionIndex.row? r.functions name with
  | some f => .ok f
  | none => .error (.notFound .function name)

/-- The class exposed under a name. -/
def classNamed (r : Registry C) (name : String) : Except BindingError (ClassEntry C) :=
  match r.classIndex.row? r.classes name with
  | some e => .ok e
  | none => .error (.notFound .type name)

/-- The class that a handle's identity names. -/
def classOf? (r : Registry C) (i : Identity) : Option (ClassEntry C) :=
  r.identityIndex.row? r.classes i

end Registry

/-- Checks every declaration and freezes the module. -/
def Module.build {C : Catalog} (m : Module C) : Except RegistrationError (Registry C) := do
  let r ← m.functions.foldlM Registry.registerFunction (.empty m.name)
  let r ← m.classes.foldlM Registry.registerClass r
  m.tables.foldlM Registry.registerMethods r

end NativeBridge
