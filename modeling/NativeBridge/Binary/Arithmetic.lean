import NativeBridge.Binary.Round

/-!
# Arithmetic on 64-bit numbers

Sum, difference, product and quotient are those of the machine; `hypotenuse` is the correctly
rounded square root of a sum of squares, taken in exact integers.
-/

namespace NativeBridge.Binary

def toFloat (x : Binary64) : Float := Float.ofBits (UInt64.ofNat x.bits)

def ofFloat (y : Float) : Binary64 := ofBits y.toBits.toNat

instance : Add Binary64 := ⟨fun x y => ofFloat (x.toFloat + y.toFloat)⟩
instance : Sub Binary64 := ⟨fun x y => ofFloat (x.toFloat - y.toFloat)⟩
instance : Mul Binary64 := ⟨fun x y => ofFloat (x.toFloat * y.toFloat)⟩
instance : Div Binary64 := ⟨fun x y => ofFloat (x.toFloat / y.toFloat)⟩

instance (n : Nat) : OfNat Binary64 n := ⟨ofInt n⟩

/-- The number without its sign. -/
def abs (x : Binary64) : Binary64 := ofMagnitude false x.magnitude

/-- The greatest integer whose square does not exceed `n`. -/
def squareRoot (n : Nat) : Nat :=
  if _h : n = 0 then 0
  else
    let root := 2 * squareRoot (n / 4)
    if (root + 1) * (root + 1) ≤ n then root + 1 else root
termination_by n
decreasing_by omega

/-- `√(x² + y²)`, correctly rounded. One infinite side makes it infinite, even beside a NaN. -/
def hypotenuse (x y : Binary64) : Binary64 :=
  if x.isInfinite || y.isInfinite then infinite false
  else if x.isNaN || y.isNaN then nan
  else
    let unit := min x.exponent y.exponent
    let side (z : Binary64) := z.significand * Nat.pow 2 (z.exponent - unit).toNat
    let guard := FloatFormat.double.precision + 2
    let square := (side x * side x + side y * side y) * Nat.pow 4 guard
    let root := squareRoot square
    round false root (unit - guard) (root * root ≠ square)

end NativeBridge.Binary
