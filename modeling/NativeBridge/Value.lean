import NativeBridge.Binary.Format
import NativeBridge.Decimal.Layout
import NativeBridge.Identity
import NativeBridge.Integer
import NativeBridge.Text.Shown

/-!
# Host values

What the host holds: nothing, a truth value, a 64-bit integer, a 64-bit float, a string, or a handle
to a native instance. A handle is only a name for the instance: its slot, the generation of that slot
and the identity of the exposed type. A `Kind` is what a signature says about a value.
-/

namespace NativeBridge

/-- The host's name for a native instance. -/
structure Handle where
  index : Nat
  generation : Nat
  identity : Identity
  deriving DecidableEq

/-- `#index.generation`, the part of a handle that names a slot's use. -/
def Handle.label (h : Handle) : String := s!"#{h.index}.{h.generation}"

def Handle.shown (h : Handle) : String :=
  Text.record "ObjectHandle"
    [("index", toString h.index), ("generation", toString h.generation),
      ("type_hash", h.identity.shown)]

/-- Integers of the host. -/
abbrev HostInt := Fixed .i64

/-- A value as the host sees it. -/
inductive HostValue
  | none
  | bool (b : Bool)
  | int (n : HostInt)
  | float (x : Binary64)
  | str (s : String)
  | object (h : Handle)
  deriving DecidableEq

namespace HostValue

instance : Inhabited HostValue := ⟨none⟩

/-- Name of the sort of value, as errors give it. -/
def typeName : HostValue → String
  | none => "none"
  | bool _ => "bool"
  | int _ => "int"
  | float _ => "float"
  | str _ => "str"
  | object _ => "object"

def isNone : HostValue → Bool
  | none => true
  | _ => false

def bool? : HostValue → Option Bool
  | bool b => some b
  | _ => .none

def int? : HostValue → Option HostInt
  | int n => some n
  | _ => .none

def float? : HostValue → Option Binary64
  | float x => some x
  | _ => .none

def str? : HostValue → Option String
  | str s => some s
  | _ => .none

def object? : HostValue → Option Handle
  | object h => some h
  | _ => .none

/-- Equality as the host sees it: floats are equal as numbers, all else as data. -/
def equals : HostValue → HostValue → Bool
  | float x, float y => x.equals y
  | v, w => v = w

/-- Text of a value for the reader. -/
def text : HostValue → String
  | none => "none"
  | bool b => toString b
  | int n => toString n.val
  | float x => Decimal.Layout.exact.render x
  | str s => Text.quote s
  | object h => s!"<object {h.label}>"

/-- Text of a value that also tells its sort. -/
def shown : HostValue → String
  | none => "None"
  | bool b => Text.alternative "Bool" (toString b)
  | int n => Text.alternative "Int" (toString n.val)
  | float x => Text.alternative "Float" (Decimal.Layout.exact.render x)
  | str s => Text.alternative "Str" (Text.quote s)
  | object h => Text.alternative "Object" h.shown

end HostValue

/-- What a signature says about a parameter, a result or a field. -/
inductive Kind
  | none
  | bool
  | int
  | float
  | str
  | object (name : String)
  deriving DecidableEq

namespace Kind

def text : Kind → String
  | none => "none"
  | bool => "bool"
  | int => "int"
  | float => "float"
  | str => "str"
  | object name => name

def shown : Kind → String
  | none => "None"
  | bool => "Bool"
  | int => "Int"
  | float => "Float"
  | str => "Str"
  | object name => Text.alternative "Object" (Text.quote name)

end Kind

end NativeBridge
