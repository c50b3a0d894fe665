import NativeBridge.Source.Tree

/-!
# Items

What the library knows of a declaration: the shapes it looks at, and the trees of everything else.
`TypeExpr` tells apart the types that are treated in a way of their own, `Signature` is that of a
function, and functions, blocks of methods and data types are items. `FnItem.tokens` and
`ImplBlock.tokens` write an item again.
-/

namespace NativeBridge.Source

/-- A type, as far as its form matters. -/
inductive TypeExpr
  /-- A path. `single` means one name, with no arguments but in angle brackets; `ok` is the first type
  among the arguments of a last name `Result`. -/
  | path (single : Bool) (ok : Option TypeExpr) (tokens : Trees)
  | reference (tokens : Trees)
  /-- Some type that meets bounds. -/
  | implTrait (tokens : Trees)
  | other (tokens : Trees)

namespace TypeExpr

def tokens : TypeExpr → Trees
  | path _ _ ts => ts
  | reference ts => ts
  | implTrait ts => ts
  | other ts => ts

def text (t : TypeExpr) : String := Tree.textAll t.tokens

/-- The type that a result holds if it is no failure. -/
def ok? : TypeExpr → Option TypeExpr
  | path _ ok _ => ok
  | _ => none

end TypeExpr

/-- What an attribute holds besides its path. -/
inductive AttributeForm
  | word
  /-- Arguments in delimiters. -/
  | list (arguments : Trees)
  /-- A value behind an equals sign. -/
  | value
  deriving Inhabited

/-- An attribute. -/
structure Attribute where
  /-- The path, if it is one name. -/
  name : Option String
  form : AttributeForm
  /-- The attribute stands inside of what it describes. -/
  isInner : Bool
  tokens : Trees

/-- The attribute is read by this library, and not by another tool. -/
def Attribute.isHelper (a : Attribute) : Bool := a.name = some "hostbind"

/-- How a function takes its receiver. -/
inductive ReceiverForm
  | value
  | shared
  | exclusive
  /-- With a type of its own. -/
  | typed
  deriving DecidableEq

/-- What a function takes. -/
inductive Input
  | receiver (form : ReceiverForm)
  /-- A typed parameter. `binding` is present if its pattern is a name that takes the whole value. -/
  | typed (binding : Option String) (type : TypeExpr)

/-- A signature. -/
structure Signature where
  isAsync : Bool
  isGeneric : Bool
  name : String
  inputs : List Input
  output : Option TypeExpr
  tokens : Trees

/-- The receiver, which comes first. -/
def Signature.receiver? (s : Signature) : Option ReceiverForm :=
  match s.inputs with
  | .receiver form :: _ => some form
  | _ => none

/-- A function with its body. -/
structure FnItem where
  attributes : List Attribute
  visibility : Trees
  /-- What stands between the visibility and the signature. -/
  defaultness : Trees
  signature : Signature
  /-- Attributes inside the body. -/
  innerAttributes : List Attribute
  body : Trees

def Attribute.allTokens (as : List Attribute) : Trees := as.flatMap (·.tokens)

/-- The function as it is written. -/
def FnItem.tokens (f : FnItem) : Trees :=
  Attribute.allTokens f.attributes ++ f.visibility ++ f.defaultness ++ f.signature.tokens
    ++ [.group .brace (Attribute.allTokens f.innerAttributes ++ f.body)]

/-- What stands in a block of methods. -/
inductive ImplItem
  | function (f : FnItem)
  | other (tokens : Trees)

def ImplItem.tokens : ImplItem → Trees
  | function f => f.tokens
  | other ts => ts

/-- A block of methods. -/
structure ImplBlock where
  /-- The block implements a trait. -/
  isTrait : Bool
  isGeneric : Bool
  selfType : TypeExpr
  /-- What stands in front of the braces. -/
  header : Trees
  innerAttributes : Trees
  items : List ImplItem

/-- The functions of a block. -/
def ImplBlock.functions (b : ImplBlock) : List FnItem :=
  b.items.filterMap fun
    | .function f => some f
    | .other _ => none

/-- The block as it is written. -/
def ImplBlock.tokens (b : ImplBlock) : Trees :=
  b.header ++ [.group .brace (b.innerAttributes ++ b.items.flatMap ImplItem.tokens)]

/-- A field with a name. -/
structure Field where
  attributes : List Attribute
  name : String
  type : TypeExpr

/-- What a data type is made of. -/
inductive DataShape
  /-- A structure with named fields. -/
  | named (fields : List Field)
  /-- A structure whose fields have no names. -/
  | positional
  /-- A structure without fields. -/
  | unit
  /-- No structure: a choice among variants, or fields that share their place. -/
  | alternatives

/-- A data type. -/
structure DataItem where
  attributes : List Attribute
  name : String
  isGeneric : Bool
  shape : DataShape

end NativeBridge.Source
