import NativeBridge.Error.Native

/-!
# Errors at the boundary

A `BindingError` says which callable, parameter, field or type a failed request of the host was about.
`ErrorKind` is the stable classification that the host dispatches on, and `HostError` the form in
which an error reaches it: the kind, one message, and the name, the expectation and the finding where
the error has them.
-/

namespace NativeBridge

/-- Classification of errors, by stable tags. -/
inductive ErrorKind
  | arity
  | typeMismatch
  | noSuchField
  | noSuchMethod
  | construction
  | notFound
  | useAfterFree
  | readOnlyField
  | sharingViolation
  | nativeFailure
  deriving DecidableEq

def ErrorKind.tag : ErrorKind → String
  | arity => "ArityError"
  | typeMismatch => "TypeMismatch"
  | noSuchField => "NoSuchField"
  | noSuchMethod => "NoSuchMethod"
  | construction => "ConstructionError"
  | notFound => "NotFound"
  | useAfterFree => "UseAfterFree"
  | readOnlyField => "ReadOnlyField"
  | sharingViolation => "SharingViolation"
  | nativeFailure => "NativeFailure"

/-- Where a name was looked up. -/
inductive Namespace
  | function
  | type
  deriving DecidableEq

def Namespace.text : Namespace → String
  | function => "function"
  | type => "type"

/-- A failed request of the host. -/
inductive BindingError
  | arity (context : String) (expected received : Nat)
  | typeMismatch (context target expected actual : String)
  | noSuchField (typeName field : String)
  | readOnlyField (typeName field : String)
  | noSuchMethod (typeName method : String)
  | construction (typeName : String) (param expected actual : Option String) (reason : String)
  | notFound (space : Namespace) (name : String)
  | useAfterFree (index generation : Nat)
  | sharingViolation (typeName operation : String)
  | nativeFailure (context message : String)
  deriving DecidableEq

namespace BindingError

def kind : BindingError → ErrorKind
  | arity .. => .arity
  | typeMismatch .. => .typeMismatch
  | noSuchField .. => .noSuchField
  | readOnlyField .. => .readOnlyField
  | noSuchMethod .. => .noSuchMethod
  | construction .. => .construction
  | notFound .. => .notFound
  | useAfterFree .. => .useAfterFree
  | sharingViolation .. => .sharingViolation
  | nativeFailure .. => .nativeFailure

def message : BindingError → String
  | arity context expected received =>
    s!"{context} takes {expected} argument(s) but {received} were given"
  | typeMismatch context target expected actual =>
    s!"{context}: '{target}' expected {expected}, got {actual}"
  | noSuchField typeName field => s!"'{typeName}' has no field '{field}'"
  | readOnlyField typeName field => s!"field '{typeName}.{field}' is read-only"
  | noSuchMethod typeName method => s!"'{typeName}' has no method '{method}'"
  | construction typeName _ _ _ reason => s!"cannot construct '{typeName}': {reason}"
  | notFound space name => s!"no {space.text} named '{name}'"
  | useAfterFree index generation => ConversionError.reclaimed index generation
  | sharingViolation typeName operation => s!"'{typeName}' does not permit {operation}"
  | nativeFailure context message => s!"{context}: {message}"

/-- The name of the callable, parameter, member or type at fault. -/
def identifier : BindingError → Option String
  | arity context _ _ | nativeFailure context _ => some context
  | typeMismatch _ target _ _ => some target
  | noSuchField _ field | readOnlyField _ field => some field
  | noSuchMethod _ method => some method
  | construction typeName param _ _ _ => some (param.getD typeName)
  | notFound _ name => some name
  | sharingViolation typeName _ => some typeName
  | useAfterFree _ _ => none

def expected : BindingError → Option String
  | arity _ expected _ => some (toString expected)
  | typeMismatch _ _ expected _ => some expected
  | construction _ _ expected _ _ => expected
  | _ => none

def actual : BindingError → Option String
  | arity _ _ received => some (toString received)
  | typeMismatch _ _ _ actual => some actual
  | construction _ _ _ actual _ => actual
  | _ => none

/-- A conversion for `target` failed in `context`. A stale handle is a use after reclamation whatever
it was meant for. -/
def ofConversion (context target : String) : ConversionError → BindingError
  | .staleHandle index generation => useAfterFree index generation
  | e => typeMismatch context target e.expected e.actual

/-- The same failure, met while constructing an instance: a type mismatch or a native failure then
speaks of the type to construct, and every other error stays as it is. -/
def inConstruction (typeName : String) : BindingError → BindingError
  | typeMismatch _ target expected actual =>
    construction typeName (some target) (some expected) (some actual)
      s!"argument '{target}' expected {expected}, got {actual}"
  | nativeFailure _ message => construction typeName none none none message
  | e => e

end BindingError

/-- An error in the form the host receives it. -/
structure HostError where
  kind : ErrorKind
  message : String
  identifier : Option String
  expected : Option String
  actual : Option String
  deriving DecidableEq

namespace HostError

def ofBinding (e : BindingError) : HostError :=
  ⟨e.kind, e.message, e.identifier, e.expected, e.actual⟩

def text (e : HostError) : String := s!"{e.kind.tag}: {e.message}"

end HostError

end NativeBridge
