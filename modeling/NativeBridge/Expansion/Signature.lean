import NativeBridge.Expansion.Error
import NativeBridge.Source.Code
import NativeBridge.Source.Grammar

/-!
# Signatures of exposed functions

What generated code needs of a signature: its parameters other than the receiver
(`ExposedParam.ofInputs`), and how its result reaches the host (`ResultShape`). Generated wrappers
stand outside of the block of methods, so `Self` is spelled out (`spellSelf`).

Parameters are numbered from zero in the order of the signature; a wrapper extracts them into
variables of that number, and passes these on in the same order.
-/

namespace NativeBridge.Expansion

open Source Trees

/-- A name without the mark that makes a plain name of a keyword. -/
def plainName (name : String) : String :=
  match name.toList with
  | 'r' :: '#' :: rest => String.ofList rest
  | _ => name

/-- The type with the implementing type in the place of `Self`. -/
def spellSelf (selfType type : TypeExpr) : Except ExpansionError TypeExpr :=
  match TypeExpr.ofTrees? (Tree.replaceSelfAll selfType.tokens type.tokens) with
  | some t => .ok t
  | none => .error .brokenType

/-- The type is the implementing type, as `Self` or as it is written. -/
def isSelfType (type selfType : TypeExpr) : Bool :=
  type.text = "Self" || type.text = selfType.text

/-! ## Parameters -/

/-- A parameter that is marshalled. -/
structure ExposedParam where
  /-- The name that the host sees. -/
  name : String
  type : TypeExpr

namespace ExposedParam

/-- Types of parameters that cannot be marshalled. -/
def isBorrowed : TypeExpr → Bool
  | .reference _ => true
  | .implTrait _ => true
  | _ => false

/-- The parameter for a pattern and a type. -/
def ofTyped (selfType : Option TypeExpr) (binding : Option String) (type : TypeExpr) :
    Except ExpansionError ExposedParam :=
  match binding with
  | none => .error .parameterPattern
  | some name =>
    if isBorrowed type then .error .parameterType
    else
      match selfType with
      | none => .ok ⟨plainName name, type⟩
      | some s => (⟨plainName name, ·⟩) <$> spellSelf s type

/-- The parameters of a signature other than the receiver. -/
def ofInputs (selfType : Option TypeExpr) : List Input → Except ExpansionError (List ExposedParam)
  | [] => .ok []
  | .receiver _ :: rest => ofInputs selfType rest
  | .typed binding type :: rest => do
    let p ← ofTyped selfType binding type
    let ps ← ofInputs selfType rest
    pure (p :: ps)

end ExposedParam

/-- The variable of the parameter with the given number. -/
def bindingName (index : Nat) : String := s!"__arg{index}"

/-- The variables of so many parameters. -/
def bindingNames (ps : List ExposedParam) : List String := (List.range ps.length).map bindingName

/-- The kind of a type. -/
def kindOf (type : TypeExpr) : Trees :=
  code "<" ++ type.tokens ++ code "as" ++ library "HostType" ++ code "> :: host_kind" ++ parens []

/-- The extraction of one argument. -/
def extraction (index : Nat) (p : ExposedParam) : Trees :=
  code "let" ++ ident (bindingName index) ++ code ":" ++ p.type.tokens ++ code "= ctx . arg"
    ++ parens [.literal s!"{index}usize"] ++ code "? ;"

/-- The extraction of all arguments. -/
def extractions (ps : List ExposedParam) : Trees := (ps.mapIdx extraction).flatten

/-- The description of one parameter. -/
def paramMeta (p : ExposedParam) : Trees :=
  library "ParamMeta :: new" ++ parens (quoted p.name ++ code "," ++ kindOf p.type)

/-- The variables as arguments of a call. -/
def callArguments (ps : List ExposedParam) : Trees := listed ((bindingNames ps).map ident)

/-! ## Results -/

/-- How a result reaches the host. -/
inductive ResultShape
  /-- Nothing is declared. -/
  | unit
  /-- The value itself. -/
  | value (type : TypeExpr)
  /-- The value of a result, or the text of its failure. -/
  | result (type : TypeExpr)

namespace ResultShape

def ofOutput : Option TypeExpr → ResultShape
  | none => unit
  | some t =>
    match t.ok? with
    | some ok => result ok
    | none => value t

/-- The type of the value for the host. -/
def type? : ResultShape → Option TypeExpr
  | unit => none
  | value t => some t
  | result t => some t

/-- The kind of what the host receives. -/
def kind (s : ResultShape) : Trees :=
  match s.type? with
  | some t => kindOf t
  | none => library "ValueKind :: None"

/-- The value for the host is of the implementing type. -/
def producesSelf (s : ResultShape) (selfType : TypeExpr) : Bool :=
  s.type?.any (isSelfType · selfType)

/-- A name of results. -/
def ofResult (name : String) : Trees := code ":: core :: result :: Result ::" ++ ident name

/-- Runs a call and stores its result. -/
def emit (s : ResultShape) (call : Trees) : Trees :=
  match s with
  | unit => call ++ code ";" ++ ofResult "Ok" ++ parens (parens [])
  | value _ => code "let __ret =" ++ call ++ code "; ctx . set_return" ++ parens (ident "__ret")
  | result _ =>
    let failure := library "NativeError :: failed"
      ++ parens (code ":: std :: string :: ToString :: to_string" ++ parens (code "& __err"))
    code "match" ++ call ++ braces
      (ofResult "Ok" ++ parens (ident "__ret") ++ code "=> ctx . set_return" ++ parens (ident "__ret")
        ++ code "," ++ ofResult "Err" ++ parens (ident "__err") ++ code "=>" ++ ofResult "Err"
        ++ parens (failure ++ code ",") ++ code ",")

end ResultShape

/-! ## Wrappers -/

/-- A function that runs in a call frame. -/
def frameFunction (name : String) (body : Trees) : Trees :=
  code "fn" ++ ident name
    ++ parens (code "ctx : & mut" ++ library "CallContext" ++ code "< '_ > ,")
    ++ code "-> :: core :: result :: Result <" ++ parens [] ++ code "," ++ library "NativeError >"
    ++ braces body

/-- The wrapper of a call: arguments are extracted before anything else. -/
def wrapper (ps : List ExposedParam) (shape : ResultShape) (call : Trees) : Trees :=
  code "#" ++ brackets (code "allow" ++ parens (ident "unused_variables"))
    ++ frameFunction "__call" (extractions ps ++ shape.emit call)

/-- The native function with the given identity and code. -/
def nativeFn (identity : Trees) (name : String) : Trees :=
  library "NativeFn :: new" ++ parens (identity ++ code "," ++ ident name ++ code ",")

end NativeBridge.Expansion
