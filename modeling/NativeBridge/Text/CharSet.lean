/-!
# Sets of characters

A `CharSet` lists closed ranges of code points in increasing order. The properties of the Unicode
standard that the library needs are such sets, one module each.
-/

namespace NativeBridge.Text

/-- A set of code points, as closed ranges. -/
structure CharSet where
  ranges : Array (Nat × Nat)

/-- Some range of the set holds the character. -/
def CharSet.contains (s : CharSet) (c : Char) : Bool :=
  s.ranges.any fun r => r.1 ≤ c.toNat && c.toNat ≤ r.2

end NativeBridge.Text
