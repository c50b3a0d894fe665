import NativeBridge.Descriptor

/-!
# Wrappers of native functions

A `Callable` is a native function with its signature: typed parameters, the way it takes its receiver,
and a result that may be a failure or a panic. Its wrapper (`Callable.code`) converts the arguments in
order, then reaches the receiver, then runs the function, and sets the return value last. A `Property`
is a field with its accessors. Descriptors are made of these, so what a signature declares and what
the wrapper converts are the same list of parameters.
-/

namespace NativeBridge

variable {C : Catalog}

/-- A named parameter with its native type. -/
structure Parameter (C : Catalog) where
  name : String
  type : NativeType C

def Parameter.meta (p : Parameter C) : Param := ⟨p.name, p.type.kind⟩

/-- Native values for a list of parameters. -/
@[reducible] def Arguments : List (Parameter C) → Type
  | [] => Unit
  | p :: ps => p.type.Value × Arguments ps

/-- A native function by the way it takes its receiver. Its failure is the text of an error. -/
inductive Body (C : Catalog) (ps : List (Parameter C)) (t : NativeType C)
  /-- Without a receiver. -/
  | free (f : Arguments ps → Outcome String t.Value)
  /-- The receiver is only read. -/
  | reading (o : C.Obj) (f : C.Instance o → Arguments ps → Outcome String t.Value)
  /-- The function takes a copy of the receiver. -/
  | copying (o : C.Obj) (f : C.Instance o → Arguments ps → Outcome String t.Value)
  /-- The function leaves a changed receiver, whether it then succeeds or not. -/
  | changing (o : C.Obj) (f : C.Instance o → Arguments ps → C.Instance o × Outcome String t.Value)

/-- A native function with its signature. -/
structure Callable (C : Catalog) where
  params : List (Parameter C)
  returns : NativeType C
  body : Body C params returns

namespace Native

/-- Converts the arguments from the given index on, in order. -/
def extract : (ps : List (Parameter C)) → (index : Nat) → Native C (Arguments ps)
  | [], _ => pure ()
  | p :: ps, index => do
    let a ← arg index p.type
    let rest ← extract ps (index + 1)
    pure (a, rest)

/-- Sets the return value to the result of a function, or ends the way the function did. -/
def deliver (t : NativeType C) : Outcome String t.Value → Native C Unit
  | .ok v => setReturn t v
  | .error reason => fail (.failed reason)
  | .panic p => panic p

/-- Goes on with a copy. -/
def ofClone {α : Type} : Except Payload α → Native C α
  | .ok copy => pure copy
  | .error p => panic p

end Native

namespace Callable

open Native

/-- The wrapper: arguments, receiver, function, return value. -/
def code (c : Callable C) : Native C Unit := do
  let args ← extract c.params 0
  match c.body with
  | .free f => deliver c.returns (f args)
  | .reading o f => do
    let self ← this o
    deliver c.returns (f self args)
  | .copying o f => do
    let self ← this o
    let copy ← ofClone (C.clone o self)
    deliver c.returns (f copy args)
  | .changing o f => do
    let self ← thisMut o fun self => (f self args).1
    deliver c.returns (f self args).2

def paramMetas (c : Callable C) : List Param := c.params.map Parameter.meta

/-- The function returns instances of the given type. -/
def produces (c : Callable C) (o : C.Obj) : Bool :=
  match c.returns with
  | .object r => r = o
  | _ => false

/-- How the function uses its receiver, which is of type `o`. -/
def mode (c : Callable C) (o : C.Obj) : ReceiverMode :=
  match c.body with
  | .changing _ _ => .mutating
  | _ => if c.produces o then .valueProducing else .readOnly

def toFunction (name : String) (c : Callable C) : FunctionMeta C where
  name := name
  params := c.paramMetas
  returns := c.returns.kind
  native := ⟨.ofFunction name, c.code⟩

def toMethod (o : C.Obj) (name : String) (c : Callable C) : MethodMeta C where
  name := name
  receiver := c.mode o
  params := c.paramMetas
  returns := c.returns.kind
  native := ⟨.ofMethod (C.identity o) name, c.code⟩

def toConstructor (o : C.Obj) (c : Callable C) : ConstructorMeta C where
  params := c.paramMetas
  native := ⟨.ofConstructor (C.identity o), c.code⟩

end Callable

/-- A field of the instances of `o`. -/
structure Property (C : Catalog) (o : C.Obj) where
  name : String
  type : NativeType C
  get : C.Instance o → type.Value
  /-- Present for fields that the host may write. -/
  set : Option (type.Value → C.Instance o → C.Instance o)

namespace Property

open Native

variable {o : C.Obj}

/-- Reads the receiver and returns a copy of the field. -/
def getter (p : Property C o) : Native C Unit := do
  let self ← this o
  let copy ← ofClone (p.type.clone (p.get self))
  setReturn p.type copy

/-- Converts the one argument and writes it into the receiver. -/
def setter (p : Property C o) (set : p.type.Value → C.Instance o → C.Instance o) :
    Native C Unit := do
  let value ← arg 0 p.type
  let _ ← thisMut o (set value)
  pure ()

def toField (p : Property C o) : FieldMeta C where
  name := p.name
  kind := p.type.kind
  access := ⟨true, p.set.isSome⟩
  getter := ⟨.ofField (C.identity o) p.name, p.getter⟩
  setter := p.set.map fun set => ⟨.ofSetter (C.identity o) p.name, p.setter set⟩

end Property

/-- The class of an object type with the given fields. -/
def ClassMeta.ofProperties (o : C.Obj) (copies : Bool) (ps : List (Property C o)) : ClassMeta C where
  name := C.name o
  identity := C.identity o
  sharing := C.sharing o
  fields := ps.map Property.toField
  copy := if copies then some (.ofClone o) else none

/-- The method table of an object type. -/
def MethodTable.ofCallables (o : C.Obj) (constructor : Option (Callable C))
    (methods : List (String × Callable C)) : MethodTable C where
  identity := C.identity o
  typeName := C.name o
  constructor := constructor.map (·.toConstructor o)
  methods := methods.map fun m => m.2.toMethod o m.1

end NativeBridge
