import NativeBridge.Expansion.Methods

/-!
# Exposed data types

A structure is exposed by the traits that make it a native type: its identity, how instances pass to
and from the host, and the fields that the host may read or write. `ExposedType.ofItem` tells what is
exposed or why nothing can be, and `ExposedType.tokens` is the code.
-/

namespace NativeBridge.Expansion

open Source Trees

/-- A field that the host may read. -/
structure ExposedField where
  name : String
  hostName : String
  type : TypeExpr
  writable : Bool

/-- What is known of an exposed type. -/
structure ExposedType where
  name : String
  hostName : String
  sharing : Sharing
  /-- Instances may be copied: by the host, and out of an argument. -/
  copies : Bool
  fields : List ExposedField

namespace ExposedField

/-- What is exposed of a field of a type with the given options. -/
def ofField (type : Options) (f : Field) : Except ExpansionError (Option ExposedField) := do
  let options ← Options.ofAttributes .field f.attributes
  if options.has .skip then pure none
  else
    let readable := options.has .get || type.has .getAll
    let writable := options.has .set || type.has .setAll
    if writable && !readable then .error .writeOnlyField
    else if readable then
      pure (some ⟨f.name, options.name.getD (plainName f.name), f.type, writable⟩)
    else pure none

/-- The exposed fields among the given ones. -/
def ofFields (type : Options) (fs : List Field) : Except ExpansionError (List ExposedField) := do
  pure ((← fs.mapM (ofField type)).filterMap id)

/-- The exposed fields of a type. Only structures with named fields, or with none, have them. -/
def ofShape (type : Options) : DataShape → Except ExpansionError (List ExposedField)
  | .named fs => ofFields type fs
  | .unit => .ok []
  | .positional => .error .unnamedFields
  | .alternatives => .error .noStruct

end ExposedField

/-- What is exposed of a data type. It has no generic parameters. -/
def ExposedType.ofItem (d : DataItem) : Except ExpansionError ExposedType :=
  if d.isGeneric then .error .genericType
  else do
    let options ← Options.ofAttributes .type d.attributes
    let fields ← ExposedField.ofShape options d.shape
    pure ⟨d.name, options.name.getD d.name, if options.has .shared then .shared else .exclusive,
      options.has .clone, fields⟩

/-! ## Code -/

/-- A function in a trait or block. -/
def functionCode (name : String) (inputs output body : Trees) : Trees :=
  code "fn" ++ ident name ++ parens inputs ++ code "->" ++ output ++ braces body

/-- The implementation of a trait of the library. -/
def implementation (trait name : String) (body : Trees) : Trees :=
  code "impl" ++ library trait ++ code "for" ++ ident name ++ braces body

/-- A result with the given types. -/
def resultType (value : Trees) (error : String) : Trees :=
  code ":: core :: result :: Result <" ++ value ++ code "," ++ library error ++ code ">"

/-- A copy of a value. -/
def cloneOf (value : Trees) : Trees := code ":: core :: clone :: Clone :: clone" ++ parens value

namespace ExposedField

/-- The field of the receiver. -/
def place (owner reach : String) (f : ExposedField) : Trees :=
  code "ctx ." ++ ident reach ++ code ":: <" ++ ident owner ++ code ">" ++ parens [] ++ code "? ."
    ++ ident f.name

/-- The identity of an accessor. -/
def identity (owner rule : String) (f : ExposedField) (last : Trees) : Trees :=
  library "TypeHash ::" ++ ident rule
    ++ parens (typeIdentity (ident owner) "type_hash" ++ code "," ++ quoted f.hostName ++ last)

/-- The accessor that reads. -/
def getter (owner : String) (f : ExposedField) : Trees :=
  describedBy
    (frameFunction "__get"
      (code "let value :" ++ f.type.tokens ++ code "=" ++ cloneOf (code "&" ++ f.place owner "this")
        ++ code "; ctx . set_return" ++ parens (ident "value")))
    (nativeFn (f.identity owner "from_field" []) "__get")

/-- The accessor that writes. -/
def setter (owner : String) (f : ExposedField) : Trees :=
  describedBy
    (frameFunction "__set"
      (code "let value :" ++ f.type.tokens ++ code "= ctx . arg" ++ parens [.literal "0"]
        ++ code "? ;" ++ f.place owner "this_mut" ++ code "= value ;" ++ ResultShape.ofResult "Ok"
        ++ parens (parens [])))
    (optional (some (nativeFn (f.identity owner "from_field_setter" (code ",")) "__set")))

/-- What the host may do with the field. -/
def access (f : ExposedField) : Trees :=
  library "FieldAccess :: READ"
    ++ if f.writable then code ". union" ++ parens (library "FieldAccess :: WRITE") else []

/-- The description of the field. -/
def tokens (owner : String) (f : ExposedField) : Trees :=
  library "FieldMeta" ++ braces
    (code "name :" ++ quoted f.hostName
      ++ code ", kind :" ++ kindOf f.type
      ++ code ", access :" ++ f.access
      ++ code ", getter :" ++ f.getter owner
      ++ code ", setter :" ++ (if f.writable then f.setter owner else optional none)
      ++ code ",")

end ExposedField

namespace ExposedType

/-- The type has an identity, a name and a way of sharing. -/
def identityCode (t : ExposedType) : Trees :=
  implementation "NativeType" t.name
    (functionCode "type_hash" [] (library "TypeHash")
        (library "TypeHash :: from_name" ++ parens (quoted t.hostName))
      ++ functionCode "type_name" [] (code "& 'static str") (quoted t.hostName)
      ++ functionCode "sharing" [] (library "SharingPolicy")
        (library "SharingPolicy ::" ++ ident t.sharing.shown))

/-- The type has a kind. -/
def kindCode (t : ExposedType) : Trees :=
  implementation "HostType" t.name
    (functionCode "host_kind" [] (library "ValueKind")
      (library "ValueKind :: Object" ++ parens (quoted t.hostName)))

/-- Instances pass to the host. -/
def toHostCode (t : ExposedType) : Trees :=
  implementation "IntoHost" t.name
    (functionCode "into_host" (code "self , heap : & mut" ++ library "ObjectHeap ,")
      (resultType (library "HostValue") "ConversionError")
      (library "convert :: object_into_host" ++ parens (code "self , heap")))

/-- Copies of instances come from the host. -/
def fromHostCode (t : ExposedType) : Trees :=
  implementation "FromHost" t.name
    (functionCode "from_host"
      (code "value : &" ++ library "HostValue , cx : &" ++ library "MarshalContext"
        ++ code "< '_ > ,")
      (resultType (ident "Self") "ConversionError")
      (library "convert :: object_from_host ::" ++ code "<" ++ ident t.name ++ code ">"
        ++ parens (code "value , cx")))

/-- The function that copies an instance into a handle of its own. -/
def copyCode (t : ExposedType) : Trees :=
  describedBy
    (functionCode "__copy"
      (code "heap : & mut" ++ library "ObjectHeap , handle :" ++ library "ObjectHandle ,")
      (resultType (library "ObjectHandle") "ConversionError")
      (code "let value ="
        ++ cloneOf (code "heap . get :: <" ++ ident t.name ++ code ">" ++ parens (ident "handle")
          ++ code "?")
        ++ code "; heap . allocate" ++ parens (ident "value")))
    (optional (some (code "__copy as" ++ library "CopyFn")))

/-- The description of the class. -/
def classCode (t : ExposedType) : Trees :=
  let entry (item : String) : Trees := typeIdentity (ident t.name) item
  implementation "HasClassMeta" t.name
    (functionCode "class_meta" [] (library "ClassMeta")
      (library "ClassMeta" ++ braces
        (code "name :" ++ entry "type_name"
          ++ code ", type_hash :" ++ entry "type_hash"
          ++ code ", sharing :" ++ entry "sharing"
          ++ code ", fields :" ++ vector (t.fields.map (·.tokens t.name))
          ++ code ", copy :" ++ (if t.copies then t.copyCode else optional none)
          ++ code ",")))

/-- The traits of the type. -/
def tokens (t : ExposedType) : Trees :=
  t.identityCode ++ t.kindCode ++ t.toHostCode ++ (if t.copies then t.fromHostCode else [])
    ++ t.classCode

end ExposedType

/-- The code for a data type. -/
def expandType (d : DataItem) : Except ExpansionError Trees :=
  ExposedType.tokens <$> ExposedType.ofItem d

end NativeBridge.Expansion
