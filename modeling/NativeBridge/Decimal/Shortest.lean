import NativeBridge.Binary.Format

/-!
# Shortest decimals

A positive finite number of a binary format is the nearest one to every real of an interval around
it. `Shortest.digits` gives the decimal with the fewest digits in that interval, and of those the
nearest to the number. For `1, 2, ..` digits it looks at the two neighbours of the number on the grid
of decimals with that many digits; the first grid with a neighbour in the interval wins. Of two
neighbours the nearer is taken, and on a tie the upper.

All comparisons are between integers: the number and the ends of its interval are multiples of
`2 ^ (exponent - 2)`.
-/

namespace NativeBridge.Decimal

/-- A decimal `digits · 10 ^ exponent`. -/
structure Scientific where
  digits : Nat
  exponent : Int
  deriving DecidableEq

namespace Shortest

/-- The reals that a positive number of the format stands for, in units of `2 ^ unit`. The ends
belong to the interval when `closed`. -/
structure Interval where
  low : Nat
  value : Nat
  high : Nat
  unit : Int
  closed : Bool

/-- The interval of `m · 2 ^ q`. Below a power of two the numbers lie twice as close, unless it is
the least normal number. -/
def interval (f : FloatFormat) (m : Nat) (q : Int) : Interval where
  low := if m = f.hidden && f.minExponent < q then 4 * m - 1 else 4 * m - 2
  value := 4 * m
  high := 4 * m + 2
  unit := q - 2
  closed := m % 2 = 0

/-- How `d · 10 ^ k` compares with `n · 2 ^ u`. -/
def compareScaled (d : Nat) (k : Int) (n : Nat) (u : Int) : Ordering :=
  compare (d * Nat.pow 10 k.toNat * Nat.pow 2 (-u).toNat)
    (n * Nat.pow 10 (-k).toNat * Nat.pow 2 u.toNat)

/-- The decimal `d · 10 ^ k` lies in the interval. -/
def Interval.contains (i : Interval) (d : Nat) (k : Int) : Bool :=
  let low := compareScaled d k i.low i.unit
  let high := compareScaled d k i.high i.unit
  (low = .gt || (low = .eq && i.closed)) && (high = .lt || (high = .eq && i.closed))

/-- The greatest `d` with `d · 10 ^ k` not above the value. -/
def Interval.below (i : Interval) (k : Int) : Nat :=
  i.value * Nat.pow 10 (-k).toNat * Nat.pow 2 i.unit.toNat
    / (Nat.pow 10 k.toNat * Nat.pow 2 (-i.unit).toNat)

/-- The better neighbour of the value on the grid of step `10 ^ k`, if one is in the interval. -/
def Interval.neighbour (i : Interval) (k : Int) : Option Scientific :=
  let d := i.below k
  match i.contains d k, i.contains (d + 1) k with
  | true, false => some ⟨d, k⟩
  | false, true => some ⟨d + 1, k⟩
  | false, false => none
  | true, true =>
    if compareScaled (2 * d + 1) k (2 * i.value) i.unit = .gt then some ⟨d, k⟩ else some ⟨d + 1, k⟩

/-- The grids of step `10 ^ k`, `10 ^ (k - 1)`, .. in turn. -/
def Interval.search (i : Interval) : Nat → Int → Scientific
  | 0, k => ⟨i.below k, k⟩
  | n + 1, k => (i.neighbour k).getD (i.search n (k - 1))

/-- Number of decimal digits. -/
def width (n : Nat) : Nat := (Nat.toDigits 10 n).length

/-- Exponent of the leading decimal digit of the value. -/
def Interval.leading (i : Interval) : Int :=
  if 0 ≤ i.unit then (width (i.value * Nat.pow 2 i.unit.toNat) : Int) - 1
  else
    let whole := i.value / Nat.pow 2 (-i.unit).toNat
    if whole ≠ 0 then (width whole : Int) - 1
    else
      -- the fraction `value / 2 ^ s` is `value · 5 ^ s / 10 ^ s`
      let s := (-i.unit).toNat
      (width (i.value * Nat.pow 5 s) : Int) - 1 - s

/-- The shortest decimal of a finite number other than zero. Its last digit may be zero only for a
number of several digits that a carry has raised to a power of ten. -/
def digits {f : FloatFormat} (x : Binary f) : Scientific :=
  let i := interval f x.significand x.exponent
  i.search 17 i.leading

end Shortest

end NativeBridge.Decimal
