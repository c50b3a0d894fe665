import NativeBridge.Catalog
import NativeBridge.Value

/-!
# Types that cross the boundary

A `NativeType C` is a type of native values that the host can hand over or receive: integers of fixed
width, floats, truth values, strings, the unit, the object types of the catalog `C`, and options of
these. `Value` is the type of its native values and `kind` what a signature tells the host. An option
presents itself as what it may hold.
-/

namespace NativeBridge

/-- A native type whose values can cross the boundary. -/
inductive NativeType (C : Catalog)
  | int (w : IntType)
  | f32
  | f64
  | bool
  | str
  | unit
  | option (t : NativeType C)
  | object (o : C.Obj)

namespace NativeType

variable {C : Catalog}

/-- The native values of a type. -/
@[reducible] def Value : NativeType C → Type
  | int w => Fixed w
  | f32 => Binary32
  | f64 => Binary64
  | bool => Bool
  | str => String
  | unit => Unit
  | option t => Option t.Value
  | object o => C.Instance o

/-- What the host is told about a type. -/
def kind : NativeType C → Kind
  | int _ => .int
  | f32 | f64 => .float
  | bool => .bool
  | str => .str
  | unit => .none
  | option t => t.kind
  | object o => .object (C.name o)

/-- A copy of a value. Only instances can fail to be copied. -/
def clone : (t : NativeType C) → t.Value → Except Payload t.Value
  | option _, none => .ok none
  | option t, some v => (t.clone v).map some
  | object o, v => C.clone o v
  | int _, v => .ok v
  | f32, v => .ok v
  | f64, v => .ok v
  | bool, v => .ok v
  | str, v => .ok v
  | unit, v => .ok v

end NativeType

end NativeBridge
