import NativeBridge.Registry

/-!
# Listings

What a registry offers, binding by binding, with rendered signatures. Functions come first; each class
contributes its constructor, then its fields, read before write, then its methods.
-/

namespace NativeBridge

/-- A binding as a listing shows it. -/
structure Binding where
  kind : BindingKind
  /-- Name with the class in front: `add`, `Point.x`. -/
  qualifiedName : String
  signature : String
  deriving DecidableEq

namespace Binding

def text (b : Binding) : String := s!"{b.signature} [{b.kind.label}]"

/-- Name of a member behind the name of its class. -/
def qualify (typeName member : String) : String := typeName ++ "." ++ member

variable {C : Catalog}

def ofFunction (f : FunctionMeta C) : Binding where
  kind := .function
  qualifiedName := f.name
  signature := f.name ++ Param.listText f.params ++ " -> " ++ f.returns.text

def ofConstructor (typeName : String) (c : ConstructorMeta C) : Binding where
  kind := .constructor
  qualifiedName := typeName
  signature := typeName ++ Param.listText c.params

/-- One binding for each permission of the field. -/
def ofField (typeName : String) (f : FieldMeta C) : List Binding :=
  let name := qualify typeName f.name
  let signature := name ++ ": " ++ f.kind.text
  (if f.access.read then [⟨.fieldRead, name, signature⟩] else []) ++
    (if f.access.write then [⟨.fieldWrite, name, signature⟩] else [])

def ofMethod (typeName : String) (m : MethodMeta C) : Binding where
  kind := .method m.receiver
  qualifiedName := qualify typeName m.name
  signature := qualify typeName m.name ++ Param.listText m.params ++ " -> " ++ m.returns.text

def ofClass (e : ClassEntry C) : List Binding :=
  (e.constructor.map (ofConstructor e.name)).toList ++
    e.fields.flatMap (ofField e.name) ++ e.methods.map (ofMethod e.name)

end Binding

namespace Registry

variable {C : Catalog}

/-- Every binding, in the order of registration. -/
def bindings (r : Registry C) : List Binding :=
  r.functions.map Binding.ofFunction ++ r.classes.flatMap Binding.ofClass

/-- The bindings, one to a line under the module's name. -/
def describe (r : Registry C) : String :=
  s!"module {r.name}\n" ++ String.join (r.bindings.map fun b => s!"  {b.text}\n")

end Registry

end NativeBridge
