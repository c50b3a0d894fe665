import NativeBridge.Native

/-!
# Descriptors

A descriptor pairs what the host may know of a binding with the native code behind it: functions,
methods, constructors, fields, whole classes, and the method table of a class. Parameters are listed
by name and kind; `Param.listText` is the parameter list of a signature.
-/

namespace NativeBridge

/-- A named parameter. -/
structure Param where
  name : String
  kind : Kind
  deriving DecidableEq

namespace Param

def text (p : Param) : String := s!"{p.name}: {p.kind.text}"

/-- A parameter list in parentheses. -/
def listText (ps : List Param) : String := "(" ++ ", ".intercalate (ps.map text) ++ ")"

def shown (p : Param) : String :=
  Text.record "ParamMeta" [("name", Text.quote p.name), ("kind", p.kind.shown)]

def listShown (ps : List Param) : String := Text.list (ps.map shown)

end Param

variable (C : Catalog)

/-- A free function. -/
structure FunctionMeta where
  name : String
  params : List Param
  returns : Kind
  native : NativeFn C

/-- How a method uses its receiver. -/
inductive ReceiverMode
  /-- The instance stays as it is. -/
  | readOnly
  /-- Changes are seen through the same handle. -/
  | mutating
  /-- Reads the instance and returns a new one. -/
  | valueProducing
  deriving DecidableEq

/-- A method. -/
structure MethodMeta where
  name : String
  receiver : ReceiverMode
  params : List Param
  returns : Kind
  native : NativeFn C

/-- A constructor. -/
structure ConstructorMeta where
  params : List Param
  native : NativeFn C

/-- What the host may do with a field. -/
structure FieldAccess where
  read : Bool
  write : Bool
  deriving DecidableEq

/-- A field. -/
structure FieldMeta where
  name : String
  kind : Kind
  access : FieldAccess
  getter : NativeFn C
  /-- Present for fields with write access. -/
  setter : Option (NativeFn C)

/-- How an instance is copied into a handle of its own: the type it must have, and the copy, which
may be refused or panic. This is what a generated copy function does: it looks at the instance behind
the handle, copies it, and takes one slot for the copy (`CopyRule.apply`). A copy function that is
written by hand has the whole heap at its disposal and may do more, such as release or change other
instances; no rule says that. -/
structure CopyRule where
  type : C.Obj
  duplicate : C.Instance type → Outcome ConversionError (C.Instance type)

/-- A type exposed to the host. -/
structure ClassMeta where
  name : String
  identity : Identity
  sharing : Sharing
  fields : List (FieldMeta C)
  /-- Present for types that permit copies. -/
  copy : Option (CopyRule C)

/-- Constructor and methods of a type. -/
structure MethodTable where
  identity : Identity
  typeName : String
  constructor : Option (ConstructorMeta C)
  methods : List (MethodMeta C)

/-- The sorts of bindings that a listing tells apart. -/
inductive BindingKind
  | function
  | constructor
  | fieldRead
  | fieldWrite
  | method (mode : ReceiverMode)
  deriving DecidableEq

variable {C}

namespace FieldAccess

/-- Bit 0 permits reading and bit 1 writing; other bits are dropped. -/
def ofBits (n : Nat) : FieldAccess := ⟨n % 2 = 1, n / 2 % 2 = 1⟩

def bits (a : FieldAccess) : Nat := (if a.read then 1 else 0) + (if a.write then 2 else 0)

def shown (a : FieldAccess) : String :=
  let flags := (if a.read then ["READ"] else []) ++ (if a.write then ["WRITE"] else [])
  Text.alternative "FieldAccess" (if flags.isEmpty then "0x0" else " | ".intercalate flags)

end FieldAccess

def FunctionMeta.shown (m : FunctionMeta C) : String :=
  Text.record "FunctionMeta"
    [("name", Text.quote m.name), ("params", Param.listShown m.params),
      ("returns", m.returns.shown), ("native", m.native.shown)]

namespace CopyRule

/-- The rule of a type's own copies. -/
def ofClone (o : C.Obj) : CopyRule C where
  type := o
  duplicate v := match C.clone o v with
    | .ok copy => .ok copy
    | .error p => .panic p

/-- Copies the instance behind a handle into a new one. -/
def apply (rule : CopyRule C) (heap : Heap C) (h : Handle) :
    Outcome ConversionError Handle × Heap C :=
  match heap.get rule.type h with
  | .error e => (.error e, heap)
  | .ok value =>
    match rule.duplicate value with
    | .error e => (.error e, heap)
    | .panic p => (.panic p, heap)
    | .ok copy =>
      match heap.allocate rule.type copy with
      | .ok (handle, heap) => (.ok handle, heap)
      | .error e => (.error e, heap)

end CopyRule

/-- Name of the mode. -/
def ReceiverMode.shown : ReceiverMode → String
  | readOnly => "ReadOnly"
  | mutating => "Mutating"
  | valueProducing => "ValueProducing"

namespace BindingKind

/-- Name of the sort. -/
def shown : BindingKind → String
  | function => "Function"
  | constructor => "Constructor"
  | fieldRead => "FieldRead"
  | fieldWrite => "FieldWrite"
  | method .readOnly => "MethodReadOnly"
  | method .mutating => "MethodMutating"
  | method .valueProducing => "MethodValueProducing"

/-- Mark of the sort in a listing. -/
def label : BindingKind → String
  | function => "function"
  | constructor => "constructor"
  | fieldRead => "get"
  | fieldWrite => "set"
  | method .readOnly => "read-only"
  | method .mutating => "mutating"
  | method .valueProducing => "value-producing"

end BindingKind

end NativeBridge
