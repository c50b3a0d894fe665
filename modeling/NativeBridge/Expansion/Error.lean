/-!
# Errors of expansions

Why a declaration cannot be exposed, or why the attributes on it cannot be read.
-/

namespace NativeBridge.Expansion

/-- What helper attributes are put on. -/
inductive Target
  | type
  | field
  | function
  | method
  deriving DecidableEq

def Target.label : Target → String
  | type => "type"
  | field => "field"
  | function => "function"
  | method => "method"

/-- What is wrong with the arguments of a helper attribute. -/
inductive AttributeFault
  /-- The attribute has no arguments. -/
  | bare (isInner : Bool)
  /-- The attribute has a value instead of arguments. -/
  | valued (isInner : Bool)
  /-- An item, its name or its text is missing where the arguments end. -/
  | itemMissing
  | nameMissing
  | textMissing
  | literalItem
  | otherItem
  | nameExpected
  | equalsExpected
  | textExpected
  | commaExpected
  /-- The item is none of the target's; one that is no single name is told as empty. -/
  | unknown (target : Target) (name : String)
  deriving DecidableEq

/-- A declaration that cannot be expanded. -/
inductive ExpansionError
  | options (fault : AttributeFault)
  | genericType
  | noStruct
  | unnamedFields
  | writeOnlyField
  | asyncFunction
  | genericFunction
  | receiverOutsideImpl
  /-- A parameter is no plain name. -/
  | parameterPattern
  /-- A parameter has a type that cannot be marshalled. -/
  | parameterType
  | traitImpl
  | genericImpl
  /-- A function without a receiver is neither the constructor nor skipped. -/
  | strayFunction
  | secondConstructor
  | constructorResult
  | constructorReceiver
  | typedReceiver
  | borrowedResult
  /-- With the implementing type in the place of `Self`, a type is none any more. -/
  | brokenType
  deriving DecidableEq

/-- A helper attribute as it should have been written. -/
def helperUsage (isInner : Bool) : String :=
  (if isInner then "#!" else "#") ++ "[hostbind(...)]"

def AttributeFault.message : AttributeFault → String
  | bare isInner => "expected attribute arguments in parentheses: " ++ helperUsage isInner
  | valued isInner => "expected parentheses: " ++ helperUsage isInner
  | itemMissing => "unexpected end of input, expected nested attribute"
  | nameMissing => "unexpected end of input, expected ident"
  | textMissing => "unexpected end of input, expected string literal"
  | literalItem => "unexpected literal in nested attribute, expected ident"
  | otherItem => "unexpected token in nested attribute, expected ident"
  | nameExpected => "expected ident"
  | equalsExpected => "expected `=`"
  | textExpected => "expected string literal"
  | commaExpected => "expected `,`"
  | unknown target name => s!"unknown hostbind {target.label} attribute: {name}"

def ExpansionError.message : ExpansionError → String
  | options fault => fault.message
  | genericType => "generic types cannot be exposed; expose a concrete newtype instead"
  | noStruct => "NativeType can only be derived for structs"
  | unnamedFields => "NativeType requires named fields"
  | writeOnlyField => "write-only fields are not supported; add `get` alongside `set`"
  | asyncFunction => "async functions cannot be exposed"
  | genericFunction => "generic functions cannot be exposed; wrap a concrete instantiation instead"
  | receiverOutsideImpl =>
    "methods must be exposed through #[hostbind::methods] on their impl block"
  | parameterPattern => "exposed parameters must be plain identifiers"
  | parameterType =>
    "exposed parameters must be owned values; borrowed and `impl Trait` parameters cannot be marshalled"
  | traitImpl => "#[hostbind::methods] must be applied to an inherent impl block"
  | genericImpl => "generic impl blocks cannot be exposed"
  | strayFunction =>
    "associated functions without a receiver must be the constructor or marked #[hostbind(skip)]"
  | secondConstructor => "a type can only expose one constructor"
  | constructorResult => "a constructor must return `Self` or `Result<Self, E>`"
  | constructorReceiver => "a constructor cannot take `self`"
  | typedReceiver => "typed receivers are not supported; use `self`, `&self` or `&mut self`"
  | borrowedResult => "exposed methods must return owned values"
  | brokenType => "unexpected token"

end NativeBridge.Expansion
