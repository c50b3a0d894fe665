import NativeBridge.Descriptor
import NativeBridge.Expansion.Options
import NativeBridge.Expansion.Signature

/-!
# Exposed methods

A block of methods is exposed by a table beside it: at most one constructor, and the methods in their
order. `ExposedMethods.ofBlock` tells what is exposed or why nothing can be, function by function from
the first to the last; `ExposedMethods.tokens` is the code.
-/

namespace NativeBridge.Expansion

open Source Trees

/-- How a wrapper reaches the receiver. -/
inductive ReceiverAccess
  | shared
  | exclusive
  /-- The function takes a copy. -/
  | copied
  deriving DecidableEq

/-- An exposed constructor. -/
structure ExposedConstructor where
  name : String
  params : List ExposedParam
  shape : ResultShape

/-- An exposed method. -/
structure ExposedMethod where
  name : String
  hostName : String
  access : ReceiverAccess
  mode : ReceiverMode
  params : List ExposedParam
  shape : ResultShape

/-- What is known of an exposed block of methods. -/
structure ExposedMethods where
  block : ImplBlock
  constructor : Option ExposedConstructor
  methods : List ExposedMethod

/-- The result of a function of the block, with `Self` spelled out. -/
def resolvedShape (selfType : TypeExpr) (s : Signature) : Except ExpansionError ResultShape :=
  match s.output with
  | none => .ok .unit
  | some t => (.ofOutput <| some ·) <$> spellSelf selfType t

namespace ReceiverAccess

/-- The access that a receiver asks for. -/
def ofForm : ReceiverForm → Except ExpansionError ReceiverAccess
  | .value => .ok copied
  | .shared => .ok shared
  | .exclusive => .ok exclusive
  | .typed => .error .typedReceiver

/-- The receiver in a wrapper. -/
def tokens (selfType : TypeExpr) : ReceiverAccess → Trees
  | shared => reach "this"
  | exclusive => reach "this_mut"
  | copied => code ":: core :: clone :: Clone :: clone" ++ parens (reach "this")
where
  /-- The instance behind the receiver. -/
  reach (name : String) : Trees :=
    code "ctx ." ++ ident name ++ code ":: <" ++ selfType.tokens ++ code ">" ++ parens [] ++ code "?"

end ReceiverAccess

/-- How a method with the given access and result uses its receiver. -/
def receiverMode (access : ReceiverAccess) (producesSelf : Bool) : ReceiverMode :=
  if access = .exclusive then .mutating
  else if producesSelf then .valueProducing
  else .readOnly

/-- The constructor that a function is. -/
def ExposedConstructor.ofItem (selfType : TypeExpr) (f : FnItem) :
    Except ExpansionError ExposedConstructor := do
  let shape ← resolvedShape selfType f.signature
  if shape.producesSelf selfType then
    let params ← ExposedParam.ofInputs (some selfType) f.signature.inputs
    pure ⟨f.signature.name, params, shape⟩
  else .error .constructorResult

/-- The method that a function with the given receiver is. -/
def ExposedMethod.ofItem (selfType : TypeExpr) (rename : Option String) (form : ReceiverForm)
    (f : FnItem) : Except ExpansionError ExposedMethod := do
  let access ← ReceiverAccess.ofForm form
  let shape ← resolvedShape selfType f.signature
  match shape.type? with
  | some (.reference _) => .error .borrowedResult
  | _ =>
    let params ← ExposedParam.ofInputs (some selfType) f.signature.inputs
    let name := f.signature.name
    pure ⟨name, rename.getD (plainName name), access,
      receiverMode access (shape.producesSelf selfType), params, shape⟩

namespace ExposedMethods

/-- A function without a receiver may be the constructor: it is marked as such, or named `new` and
returns the type. -/
def mayConstruct (selfType : TypeExpr) (options : Options) (f : FnItem) :
    Except ExpansionError Bool := do
  let isNew ←
    if f.signature.name = "new" then
      (·.producesSelf selfType) <$> resolvedShape selfType f.signature
    else pure false
  pure (options.has .constructor || isNew)

/-- The block with one more function. -/
def add (selfType : TypeExpr) (m : ExposedMethods) (f : FnItem) :
    Except ExpansionError ExposedMethods := do
  let options ← Options.ofAttributes .method (f.attributes ++ f.innerAttributes)
  if options.has .skip then pure m
  else
    match f.signature.receiver? with
    | none =>
      if !(← mayConstruct selfType options f) then .error .strayFunction
      else if m.constructor.isSome then .error .secondConstructor
      else
        let c ← ExposedConstructor.ofItem selfType f
        pure { m with constructor := some c }
    | some form =>
      if options.has .constructor then .error .constructorReceiver
      else
        let e ← ExposedMethod.ofItem selfType options.name form f
        pure { m with methods := m.methods ++ [e] }

/-- What is exposed of a block. It implements no trait and has no generic parameters. -/
def ofBlock (b : ImplBlock) : Except ExpansionError ExposedMethods :=
  if b.isTrait then .error .traitImpl
  else if b.isGeneric then .error .genericImpl
  else b.functions.foldlM (add b.selfType) ⟨b, none, []⟩

end ExposedMethods

/-- A block that holds a wrapper and then gives a description. -/
def describedBy (wrapper description : Trees) : Trees := braces (wrapper ++ description)

/-- The identity of the type. -/
def typeIdentity (type : Trees) (item : String) : Trees :=
  code "<" ++ type ++ code "as" ++ library "NativeType" ++ code "> ::" ++ ident item ++ parens []

/-- A call of a function of the type. -/
def associatedCall (selfType : TypeExpr) (name : String) (arguments : Trees) : Trees :=
  code "<" ++ selfType.tokens ++ code "> ::" ++ ident name ++ parens arguments

def ExposedConstructor.tokens (selfType : TypeExpr) (c : ExposedConstructor) : Trees :=
  let identity := library "TypeHash :: from_constructor"
    ++ parens (typeIdentity selfType.tokens "type_hash")
  describedBy
    (wrapper c.params c.shape (associatedCall selfType c.name (callArguments c.params)))
    (library "ConstructorMeta" ++ braces
      (code "params :" ++ vector (c.params.map paramMeta)
        ++ code ", native :" ++ nativeFn identity "__call" ++ code ","))

def ExposedMethod.tokens (selfType : TypeExpr) (m : ExposedMethod) : Trees :=
  let identity := library "TypeHash :: from_method"
    ++ parens (typeIdentity selfType.tokens "type_hash" ++ code "," ++ quoted m.hostName ++ code ",")
  let arguments := m.access.tokens selfType ++ code "," ++ callArguments m.params
  describedBy
    (wrapper m.params m.shape (associatedCall selfType m.name arguments))
    (library "MethodMeta" ++ braces
      (code "name :" ++ quoted m.hostName
        ++ code ", receiver :" ++ library "ReceiverMode ::" ++ ident m.mode.shown
        ++ code ", params :" ++ vector (m.params.map paramMeta)
        ++ code ", returns :" ++ m.shape.kind
        ++ code ", native :" ++ nativeFn identity "__call" ++ code ","))

/-- The function without its helper attributes. -/
def withoutHelpers (f : FnItem) : FnItem :=
  { f with
    attributes := f.attributes.filter (!·.isHelper)
    innerAttributes := f.innerAttributes.filter (!·.isHelper) }

/-- The block without helper attributes on its functions. -/
def cleaned (b : ImplBlock) : ImplBlock :=
  { b with
    items := b.items.map fun
      | .function f => .function (withoutHelpers f)
      | item => item }

/-- The code of an option. -/
def optional : Option Trees → Trees
  | some ts => code ":: core :: option :: Option :: Some" ++ parens ts
  | none => code ":: core :: option :: Option :: None"

namespace ExposedMethods

/-- The block, and the table of its constructor and methods. -/
def tokens (m : ExposedMethods) : Trees :=
  let selfType := m.block.selfType
  let table := library "MethodTable" ++ braces
    (code "type_hash :" ++ typeIdentity selfType.tokens "type_hash"
      ++ code ", type_name :" ++ typeIdentity selfType.tokens "type_name"
      ++ code ", constructor :" ++ optional (m.constructor.map (·.tokens selfType))
      ++ code ", methods :" ++ vector (m.methods.map (·.tokens selfType)) ++ code ",")
  (cleaned m.block).tokens ++ code "impl" ++ library "HasMethods for" ++ selfType.tokens ++ braces
    (code "fn method_table" ++ parens [] ++ code "->" ++ library "MethodTable" ++ braces table)

end ExposedMethods

/-- The code for a block of methods. -/
def expandMethods (b : ImplBlock) : Except ExpansionError Trees :=
  ExposedMethods.tokens <$> ExposedMethods.ofBlock b

end NativeBridge.Expansion
