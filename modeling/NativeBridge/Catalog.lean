import NativeBridge.Identity
import NativeBridge.Outcome

/-!
# Object types

A `Catalog` lists the native object types of a program: what their instances are, the name under
which the host knows each, whether several holders may share an instance, and how an instance is
copied, which may panic. Two object types may carry the same exposed name; they are different types
all the same, and the heap never takes an instance of one for an instance of the other.
-/

namespace NativeBridge

/-- How many holders an instance may have. -/
inductive Sharing
  /-- One holder. -/
  | exclusive
  /-- Counted holders, all of whom see the same instance. -/
  | shared
  deriving DecidableEq

def Sharing.shown : Sharing → String
  | exclusive => "Exclusive"
  | shared => "Shared"

/-- The native object types of a program. -/
structure Catalog where
  Obj : Type
  [decEq : DecidableEq Obj]
  Instance : Obj → Type
  name : Obj → String
  sharing : Obj → Sharing
  clone : (o : Obj) → Instance o → Except Payload (Instance o)

namespace Catalog

instance (C : Catalog) : DecidableEq C.Obj := C.decEq

/-- The identity that handles to instances of the type carry. -/
def identity (C : Catalog) (o : C.Obj) : Identity := .ofType (C.name o)

end Catalog

end NativeBridge
