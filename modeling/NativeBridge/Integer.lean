/-!
# Integers of fixed width

The ten integer types of native code, and `Fixed w`, the integers that fit the type `w`. An integer
enters a type by `fit?`, which refuses what does not fit, or by `wrap`, which keeps its low bits.
-/

namespace NativeBridge

/-- A native integer type. The sizes `isize` and `usize` have 64 bits. -/
inductive IntType
  | i8 | i16 | i32 | i64 | isize | u8 | u16 | u32 | u64 | usize
  deriving DecidableEq

namespace IntType

def bits : IntType → Nat
  | i8 | u8 => 8
  | i16 | u16 => 16
  | i32 | u32 => 32
  | i64 | u64 | isize | usize => 64

def isSigned : IntType → Bool
  | i8 | i16 | i32 | i64 | isize => true
  | _ => false

def name : IntType → String
  | i8 => "i8" | i16 => "i16" | i32 => "i32" | i64 => "i64" | isize => "isize"
  | u8 => "u8" | u16 => "u16" | u32 => "u32" | u64 => "u64" | usize => "usize"

/-- The least integer of the type. -/
def min (w : IntType) : Int := if w.isSigned then -Nat.pow 2 (w.bits - 1) else 0

/-- The greatest integer of the type. -/
def max (w : IntType) : Int :=
  (Nat.pow 2 (if w.isSigned then w.bits - 1 else w.bits) : Int) - 1

end IntType

/-- An integer that fits the type `w`. -/
structure Fixed (w : IntType) where
  val : Int
  fits : w.min ≤ val ∧ val ≤ w.max
  deriving DecidableEq

namespace Fixed

variable {w : IntType}

/-- The integer in the type, if it fits. -/
def fit? (w : IntType) (n : Int) : Option (Fixed w) :=
  if h : w.min ≤ n ∧ n ≤ w.max then some ⟨n, h⟩ else none

/-- The integer of the type with the same low bits. -/
def wrap (w : IntType) (n : Int) : Fixed w :=
  ⟨if w.isSigned then
      (n + Nat.pow 2 (w.bits - 1)) % Nat.pow 2 w.bits - Nat.pow 2 (w.bits - 1)
    else n % Nat.pow 2 w.bits, by
    cases w <;> simp only [IntType.min, IntType.max, IntType.isSigned, IntType.bits, if_true,
      Bool.false_eq_true, if_false, Nat.pow_eq, Nat.reduceSub, Nat.reducePow] <;> omega⟩

instance : Inhabited (Fixed w) := ⟨wrap w 0⟩

theorem ext {a b : Fixed w} (h : a.val = b.val) : a = b := by
  cases a; cases b; cases h; rfl

end Fixed

end NativeBridge
