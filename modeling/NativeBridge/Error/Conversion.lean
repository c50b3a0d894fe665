import NativeBridge.Decimal.Layout

/-!
# Errors of a single conversion

Why a host value did not become a native value, or the other way round. Each error knows what was
wanted (`expected`) and what was there (`actual`), and has one message.
-/

namespace NativeBridge

/-- Why a value could not cross the boundary. -/
inductive ConversionError
  /-- The value is of another sort. -/
  | typeMismatch (expected actual : String)
  /-- The integer does not fit the target. -/
  | integerOutOfRange (value : Int) (target : String)
  /-- The float target does not represent the integer exactly. -/
  | lossyWidening (value : Int) (target : String)
  /-- The finite float exceeds the target's range. -/
  | floatOutOfRange (value : Binary64) (target : String)
  /-- The target would round the float. -/
  | lossyNarrowing (value : Binary64) (target : String)
  /-- The handle's instance has been reclaimed, or never was. -/
  | staleHandle (index generation : Nat)
  /-- No slot is left for a new instance. -/
  | heapExhausted
  deriving DecidableEq

namespace ConversionError

/-- What the conversion was aiming for. -/
def expected : ConversionError → String
  | typeMismatch expected _ => expected
  | integerOutOfRange _ target | lossyWidening _ target => target
  | floatOutOfRange _ target | lossyNarrowing _ target => target
  | staleHandle _ _ => "live object"
  | heapExhausted => "free heap slot"

/-- What was offered, with the value where the range decides. -/
def actual : ConversionError → String
  | typeMismatch _ actual => actual
  | integerOutOfRange value _ | lossyWidening value _ => s!"int {value}"
  | floatOutOfRange value _ | lossyNarrowing value _ =>
    s!"float {Decimal.Layout.plain.render value}"
  | staleHandle _ _ => "reclaimed object"
  | heapExhausted => "exhausted heap"

/-- A handle that no longer names an instance. -/
def reclaimed (index generation : Nat) : String :=
  s!"object handle #{index}.{generation} has been reclaimed"

def message : ConversionError → String
  | typeMismatch expected actual => s!"type mismatch: expected {expected}, got {actual}"
  | integerOutOfRange value target => s!"integer {value} is out of range for {target}"
  | lossyWidening value target => s!"integer {value} cannot be widened to {target} without loss"
  | floatOutOfRange value target =>
    s!"float {Decimal.Layout.plain.render value} is out of range for {target}"
  | lossyNarrowing value target =>
    s!"float {Decimal.Layout.plain.render value} cannot be narrowed to {target} without rounding"
  | staleHandle index generation => reclaimed index generation
  | heapExhausted => "object heap has no addressable slot left"

end ConversionError

end NativeBridge
