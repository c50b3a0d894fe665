/-!
# Errors of a module's declarations

Why a module was refused when it was built.
-/

namespace NativeBridge

/-- A declaration that cannot stand beside the ones before it. -/
inductive RegistrationError
  | duplicateFunction (name : String)
  | duplicateType (name : String)
  /-- Fields and methods of one type share their names. -/
  | duplicateMember (typeName member : String)
  | methodsWithoutClass (typeName : String)
  | duplicateMethodTable (typeName : String)
  deriving DecidableEq

def RegistrationError.message : RegistrationError → String
  | duplicateFunction name => s!"function '{name}' is already registered"
  | duplicateType name => s!"type '{name}' is already registered"
  | duplicateMember typeName member => s!"type '{typeName}' already has a member named '{member}'"
  | methodsWithoutClass typeName =>
    s!"methods registered for '{typeName}', which is not a registered type"
  | duplicateMethodTable typeName => s!"methods for '{typeName}' are already registered"

end NativeBridge
