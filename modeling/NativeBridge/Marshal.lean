import NativeBridge.Binary.Round
import NativeBridge.Heap
import NativeBridge.NativeType

/-!
# Conversions between host and native values

`fromHost` makes a native value of a host value and `toHost` the other way round. No conversion loses
anything: an integer that does not fit, an integer that a float would round and a float that a
narrower float would round are refused. Under `NumericPolicy.strict` an integer never becomes a
float. Objects move into the heap on the way out, and are copied out of it on the way in.
-/

namespace NativeBridge

/-- What becomes of a host integer where a float is wanted. -/
inductive NumericPolicy
  /-- It is accepted if the float represents it exactly. -/
  | widening
  /-- It is refused. -/
  | strict
  deriving DecidableEq

def NumericPolicy.shown : NumericPolicy → String
  | widening => "Widening"
  | strict => "Strict"

/-- The error of a host value of another sort. -/
def ConversionError.mismatch (expected : String) (v : HostValue) : ConversionError :=
  .typeMismatch expected v.typeName

/-- A host integer where a float is wanted. The bound is the greatest up to which the format has every
integer. -/
def NumericPolicy.widen (policy : NumericPolicy) (f : FloatFormat) (target : String) (n : HostInt) :
    Except ConversionError (Binary f) :=
  match policy with
  | strict => .error (.typeMismatch "float" "int")
  | widening =>
    if n.val.natAbs ≤ Nat.pow 2 f.precision then .ok (Binary.ofInt n.val)
    else .error (.lossyWidening n.val target)

/-- The number in the 32-bit format, if that has it. Finite numbers beyond its range are told apart
from those it would round. -/
def Binary64.narrow (x : Binary64) : Except ConversionError Binary32 :=
  let narrowed : Binary32 := x.convert
  let widened : Binary64 := narrowed.convert
  let largest : Binary64 := (Binary.largest : Binary32).convert
  if x.isFinite && largest.magnitude < x.magnitude then .error (.floatOutOfRange x "f32")
  else if x.isNaN || widened.equals x then .ok narrowed
  else .error (.lossyNarrowing x "f32")

namespace NativeType

variable {C : Catalog}

/-- The native value that a host value stands for. Copying an instance out of the heap may panic. -/
def fromHost (policy : NumericPolicy) (heap : Heap C) :
    (t : NativeType C) → HostValue → Outcome ConversionError t.Value
  | int w, .int n =>
    match Fixed.fit? w n.val with
    | some v => .ok v
    | none => .error (.integerOutOfRange n.val w.name)
  | int _, v => .error (.mismatch "int" v)
  | f64, .float x => .ok x
  | f64, .int n => .ofExcept (policy.widen .double "f64" n)
  | f64, v => .error (.mismatch "float" v)
  | f32, .float x => .ofExcept x.narrow
  | f32, .int n => .ofExcept (policy.widen .single "f32" n)
  | f32, v => .error (.mismatch "float" v)
  | bool, .bool b => .ok b
  | bool, v => .error (.mismatch "bool" v)
  | str, .str s => .ok s
  | str, v => .error (.mismatch "str" v)
  | unit, .none => .ok ()
  | unit, v => .error (.mismatch "none" v)
  | option _, .none => .ok none
  | option t, v =>
    match t.fromHost policy heap v with
    | .ok a => .ok (some a)
    | .error e => .error e
    | .panic p => .panic p
  | object o, .object h =>
    match heap.get o h with
    | .ok value =>
      match C.clone o value with
      | .ok copy => .ok copy
      | .error p => .panic p
    | .error e => .error e
  | object o, v => .error (.mismatch (C.name o) v)

/-- The host value for a native value, and the heap that holds its instance. -/
def toHost : (t : NativeType C) → t.Value → Heap C → Except ConversionError (HostValue × Heap C)
  | int _, v, heap =>
    match Fixed.fit? .i64 v.val with
    | some n => .ok (.int n, heap)
    | none => .error (.integerOutOfRange v.val "int")
  | f64, x, heap => .ok (.float x, heap)
  | f32, x, heap => .ok (.float x.convert, heap)
  | bool, b, heap => .ok (.bool b, heap)
  | str, s, heap => .ok (.str s, heap)
  | unit, _, heap => .ok (.none, heap)
  | option _, none, heap => .ok (.none, heap)
  | option t, some v, heap => t.toHost v heap
  | object o, v, heap => do
    let (handle, heap) ← heap.allocate o v
    .ok (.object handle, heap)

end NativeType

end NativeBridge
