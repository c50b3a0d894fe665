import NativeBridge.Error.Registration
import NativeBridge.Descriptor

/-!
# Modules

A `Module` collects the functions, classes and method tables to expose, in the order they are added.
Nothing is checked before the module is built into a registry.
-/

namespace NativeBridge

/-- Declarations to expose. -/
structure Module (C : Catalog) where
  name : String
  functions : List (FunctionMeta C) := []
  classes : List (ClassMeta C) := []
  tables : List (MethodTable C) := []

namespace Module

variable {C : Catalog}

def exposeFunction (m : Module C) (f : FunctionMeta C) : Module C :=
  { m with functions := m.functions ++ [f] }

def exposeClass (m : Module C) (c : ClassMeta C) : Module C :=
  { m with classes := m.classes ++ [c] }

def exposeMethods (m : Module C) (t : MethodTable C) : Module C :=
  { m with tables := m.tables ++ [t] }

/-- Adds every declaration of another module, and keeps the name. -/
def merge (m other : Module C) : Module C :=
  { m with
    functions := m.functions ++ other.functions
    classes := m.classes ++ other.classes
    tables := m.tables ++ other.tables }

end Module

end NativeBridge
