/-!
# Binary interchange formats

A `FloatFormat` fixes how many bits a floating-point number has for its significand and its exponent.
`Binary f` is a number of the format `f` as its bit pattern, and a finite pattern denotes
`± significand · 2 ^ exponent`. Everything here is about patterns: whether one is a NaN, an infinity
or finite, its sign, and the numeric order, in which the two zeros are equal and a NaN is unordered.
-/

namespace NativeBridge

/-- Sizes of a binary floating-point format. -/
structure FloatFormat where
  /-- Bits of the significand, the leading one included. -/
  precision : Nat
  exponentBits : Nat
  deriving DecidableEq

namespace FloatFormat

/-- The 64-bit format. -/
def double : FloatFormat := ⟨53, 11⟩

/-- The 32-bit format. -/
def single : FloatFormat := ⟨24, 8⟩

/-- Bits of a whole pattern: the sign takes the place of the leading one, which is not stored. -/
def width (f : FloatFormat) : Nat := f.precision + f.exponentBits

/-- Weight of the sign bit. -/
def signWeight (f : FloatFormat) : Nat := Nat.pow 2 (f.width - 1)

/-- Weight of the lowest exponent bit, which is also the least normal significand. -/
def hidden (f : FloatFormat) : Nat := Nat.pow 2 (f.precision - 1)

/-- The pattern of infinity without its sign. -/
def infinity (f : FloatFormat) : Nat := (Nat.pow 2 f.exponentBits - 1) * f.hidden

/-- Exponent of the last place of the smallest numbers. -/
def minExponent (f : FloatFormat) : Int := 3 - Nat.pow 2 (f.exponentBits - 1) - f.precision

end FloatFormat

/-- A number of the format `f`, as its bit pattern. -/
structure Binary (f : FloatFormat) where
  bits : Nat
  bits_lt : bits < Nat.pow 2 f.width
  deriving DecidableEq

/-- Numbers of the 64-bit format. -/
abbrev Binary64 := Binary .double

/-- Numbers of the 32-bit format. -/
abbrev Binary32 := Binary .single

namespace Binary

variable {f : FloatFormat}

/-- The number with the given pattern, whose higher bits are dropped. -/
def ofBits (n : Nat) : Binary f :=
  ⟨n % Nat.pow 2 f.width, Nat.mod_lt _ (Nat.two_pow_pos _)⟩

instance : Inhabited (Binary f) := ⟨ofBits 0⟩

/-- The pattern without its sign. -/
def magnitude (x : Binary f) : Nat := x.bits % f.signWeight

def isNegative (x : Binary f) : Bool := f.signWeight ≤ x.bits

/-- The number with the given sign and unsigned pattern. -/
def ofMagnitude (negative : Bool) (magnitude : Nat) : Binary f :=
  ofBits (if negative then f.signWeight + magnitude else magnitude)

def isNaN (x : Binary f) : Bool := f.infinity < x.magnitude

def isInfinite (x : Binary f) : Bool := x.magnitude = f.infinity

def isFinite (x : Binary f) : Bool := x.magnitude < f.infinity

/-- Digits of a finite number: `± significand · 2 ^ exponent`. -/
def significand (x : Binary f) : Nat :=
  let fraction := x.magnitude % f.hidden
  if x.magnitude < f.hidden then fraction else f.hidden + fraction

def exponent (x : Binary f) : Int :=
  f.minExponent + (x.magnitude / f.hidden - 1 : Nat)

/-- Place of a number that is not a NaN in the numeric order. Both zeros have place 0. -/
def place (x : Binary f) : Int :=
  if x.isNegative then -(x.magnitude : Int) else x.magnitude

/-- Numeric equality, which no NaN satisfies. -/
def equals (x y : Binary f) : Bool :=
  !x.isNaN && !y.isNaN && x.place = y.place

/-- Numeric order, in which a NaN is unordered. -/
def isLess (x y : Binary f) : Bool :=
  !x.isNaN && !y.isNaN && x.place < y.place

/-- A number that is not a NaN exceeds the largest finite number of the format when its unsigned
pattern does. -/
def largest : Binary f := ofMagnitude false (f.infinity - 1)

/-- The quiet NaN without payload. -/
def nan : Binary f := ofMagnitude false (f.infinity + f.hidden / 2)

def infinite (negative : Bool) : Binary f := ofMagnitude negative f.infinity

end Binary

end NativeBridge
