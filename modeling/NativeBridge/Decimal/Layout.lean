import NativeBridge.Decimal.Shortest

/-!
# Decimal text of binary numbers

`Layout.render` writes a number in its shortest decimal digits. A `Layout` decides what the digits
leave open: the exponents of the leading digit that are written positionally, and whether a whole
number keeps a fraction. `Layout.exact` is the layout of values shown for inspection, `Layout.plain`
that of numbers inside messages.
-/

namespace NativeBridge.Decimal

/-- Choices of a decimal text. -/
structure Layout where
  /-- Exponents of the leading digit that are written without an exponent; `none` is all of them. -/
  positional : Option (Int × Int)
  /-- A whole number written positionally ends in a point and a zero. -/
  keepsPoint : Bool

/-- Positional from a ten-thousandth up to sixteen whole digits, always with a point. -/
def Layout.exact : Layout := ⟨some (-4, 15), true⟩

/-- Always positional, without a point where none is needed. -/
def Layout.plain : Layout := ⟨none, false⟩

/-- The digits without trailing zeros. -/
def trimmed (digits : List Char) : List Char :=
  (digits.reverse.dropWhile (· = '0')).reverse

def zeros (n : Nat) : List Char := List.replicate n '0'

/-- Digits in front of and behind the point, where the leading digit has the given exponent. -/
def positionalDigits (digits : List Char) (leading : Int) : List Char × List Char :=
  if 0 ≤ leading then
    let whole := leading.toNat + 1
    (digits.take whole ++ zeros (whole - digits.length), digits.drop whole)
  else (['0'], zeros ((-leading).toNat - 1) ++ digits)

/-- Text of a positive decimal by its digits, without trailing zeros, and the exponent of the first
of them. -/
def Layout.renderDigits (l : Layout) (digits : List Char) (leading : Int) : List Char :=
  let isPositional := match l.positional with
    | none => true
    | some (least, greatest) => least ≤ leading && leading ≤ greatest
  if isPositional then
    match positionalDigits digits leading with
    | (whole, []) => if l.keepsPoint then whole ++ ['.', '0'] else whole
    | (whole, fraction) => whole ++ '.' :: fraction
  else
    let mantissa := match digits with
      | first :: second :: rest => first :: '.' :: second :: rest
      | single => single
    mantissa ++ 'e' :: (toString leading).toList

/-- Text of a number in the layout. -/
def Layout.render {f : FloatFormat} (l : Layout) (x : Binary f) : String :=
  if x.isNaN then "NaN"
  else
    let sign := if x.isNegative then "-" else ""
    if x.isInfinite then sign ++ "inf"
    else if x.magnitude = 0 then sign ++ (if l.keepsPoint then "0.0" else "0")
    else
      let shortest := Shortest.digits x
      let digits := Nat.toDigits 10 shortest.digits
      let leading := shortest.exponent + (digits.length : Int) - 1
      sign ++ String.ofList (l.renderDigits (trimmed digits) leading)

end NativeBridge.Decimal
