import NativeBridge.Binary.Format

/-!
# Rounding to a binary format

`Binary.round` takes a magnitude `m · 2 ^ q` to the nearest number of a format, halves going to the
even neighbour and what lies beyond the largest number to infinity. Conversions between formats and
from integers are instances. A pattern without its sign counts the numbers of the format upwards from
zero, so the rounded significand is added to the weight of its exponent, and a carry out of the
significand moves into the exponent by itself.
-/

namespace NativeBridge.Binary

variable {f g : FloatFormat}

/-- Number of binary digits of a positive number. -/
def digits (m : Nat) : Nat := m.log2 + 1

/-- Exponent of the last place that a number `m · 2 ^ q` keeps. Zero keeps them all. -/
def lastPlace (f : FloatFormat) (m : Nat) (q : Int) : Int :=
  if m = 0 then f.minExponent else max (q + digits m - f.precision) f.minExponent

/-- `m / 2 ^ d` to the nearest integer, a half going to the even one. With `inexact`, the value is a
little above `m`, which decides what would be a half. -/
def shiftRound (m d : Nat) (inexact : Bool) : Nat :=
  let unit := Nat.pow 2 d
  let quotient := m / unit
  let twice := 2 * (m % unit)
  if unit < twice || (twice = unit && (inexact || quotient % 2 = 1)) then quotient + 1 else quotient

/-- The number nearest to `± m · 2 ^ q`, or with `inexact` to a value a little
further from zero. -/
def round (negative : Bool) (m : Nat) (q : Int) (inexact : Bool) : Binary f :=
  let last := lastPlace f m q
  let rounded :=
    if last ≤ q then m * Nat.pow 2 (q - last).toNat else shiftRound m (last - q).toNat inexact
  ofMagnitude negative (min ((last - f.minExponent).toNat * f.hidden + rounded) f.infinity)

/-- The number of the format nearest to an integer. -/
def ofInt (n : Int) : Binary f := round (decide (n < 0)) n.natAbs 0 false

/-- The nearest number of another format. A NaN stays one, without its payload. -/
def convert (x : Binary f) : Binary g :=
  if x.isNaN then nan
  else if x.isInfinite then infinite x.isNegative
  else round x.isNegative x.significand x.exponent false

end NativeBridge.Binary
