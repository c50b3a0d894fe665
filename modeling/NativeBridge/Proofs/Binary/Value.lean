import Mathlib.Algebra.Order.Field.Power
import Mathlib.Algebra.Order.Group.Unbundled.Int
import Mathlib.Algebra.Order.Ring.Rat
import Mathlib.Data.Int.Order.Lemmas
import Mathlib.Order.Monotone.Odd
import Mathlib.Tactic.Positivity
import Mathlib.Tactic.Ring
import NativeBridge.Proofs.Binary.Format

/-!
# Values of finite numbers

A finite pattern denotes the rational number `± significand · 2 ^ exponent` (`Binary.value`). In units
of the least positive number that is an integer (`Binary.value_eq_steps`), which grows with the place
in the numeric order. So numbers are equal or less just as their values are (`Binary.equals_iff`,
`Binary.isLess_iff`), and a number is given by its value, but for the sign of zero
(`Binary.eq_of_value`).
-/

namespace NativeBridge

namespace FloatFormat

/-- The units at a place in the numeric order, negative in front of zero. -/
def steps (f : FloatFormat) (place : Int) : Int := place.sign * f.units place.natAbs

/-- Steps are ordered as the places they are taken to. -/
theorem steps_lt_steps_iff (f : FloatFormat) {a b : Int} : f.steps a < f.steps b ↔ a < b := by
  have odd (place : Int) : f.steps (-place) = -f.steps place := by simp [steps]
  have increasing : StrictMono f.steps := by
    refine strictMono_of_odd_strictMonoOn_nonneg odd fun a (ha : 0 ≤ a) b _ less => ?_
    have grows : f.units a.natAbs < f.units b.natAbs := f.strictMono_units (by omega)
    have upper : f.steps b = f.units b.natAbs := by
      rw [steps, Int.sign_eq_one_of_pos (by omega), one_mul]
    obtain rfl | positive := ha.eq_or_lt
    · rw [upper, steps, Int.sign_zero, zero_mul]
      omega
    · rw [upper, steps, Int.sign_eq_one_of_pos positive, one_mul]
      exact_mod_cast grows
  exact increasing.lt_iff_lt

theorem steps_inj (f : FloatFormat) {a b : Int} : f.steps a = f.steps b ↔ a = b := by
  have less := f.steps_lt_steps_iff (a := a) (b := b)
  have more := f.steps_lt_steps_iff (a := b) (b := a)
  refine ⟨fun same => ?_, congrArg f.steps⟩
  omega

end FloatFormat

namespace Binary

variable {f g : FloatFormat} {x y : Binary f}

/-- The number that a finite pattern denotes. -/
def value (x : Binary f) : ℚ :=
  (if x.isNegative then -1 else 1) * (x.significand * 2 ^ x.exponent)

/-- A value in units is the significand at its exponent. -/
theorem units_mul_eq (x : Binary f) :
    (f.units x.magnitude : ℚ) * 2 ^ f.minExponent = x.significand * 2 ^ x.exponent := by
  rw [significand_eq, exponent_eq, FloatFormat.units, zpow_add₀ two_ne_zero, zpow_natCast]
  push_cast
  ring

/-- The size of a value is its units, at the least exponent. -/
theorem abs_value (x : Binary f) : |x.value| = f.units x.magnitude * 2 ^ f.minExponent := by
  have nonneg : (0 : ℚ) ≤ f.units x.magnitude * 2 ^ f.minExponent := by positivity
  unfold value
  rw [← units_mul_eq]
  split
  · rw [neg_one_mul, abs_neg, abs_of_nonneg nonneg]
  · rw [one_mul, abs_of_nonneg nonneg]

/-- A value is so many steps from zero, at the least exponent. -/
theorem value_eq_steps (x : Binary f) : x.value = f.steps x.place * 2 ^ f.minExponent := by
  have zero := f.units_zero
  unfold value FloatFormat.steps place
  rw [← units_mul_eq]
  split
  · obtain none | some := Nat.eq_zero_or_pos x.magnitude
    · simp [none, zero]
    · rw [Int.sign_neg, Int.sign_natCast_of_ne_zero some.ne', Int.natAbs_neg, Int.natAbs_natCast]
      push_cast
      ring
  · obtain none | some := Nat.eq_zero_or_pos x.magnitude
    · simp [none, zero]
    · rw [Int.sign_natCast_of_ne_zero some.ne', Int.natAbs_natCast]
      push_cast
      ring

/-! ## Order -/

/-- Values are ordered as the places of their patterns. -/
theorem value_lt_value_iff : x.value < y.value ↔ x.place < y.place := by
  have unit : (0 : ℚ) < 2 ^ f.minExponent := by positivity
  rw [value_eq_steps, value_eq_steps, mul_lt_mul_iff_left₀ unit, Int.cast_lt,
    f.steps_lt_steps_iff]

/-- Patterns have one value if they have one place. So have the two zeros. -/
theorem value_inj : x.value = y.value ↔ x.place = y.place := by
  have unit : (2 : ℚ) ^ f.minExponent ≠ 0 := by positivity
  rw [value_eq_steps, value_eq_steps, mul_left_inj' unit, Int.cast_inj,
    f.steps_inj]

/-- Values are as large as their magnitudes. -/
theorem abs_value_lt_iff : |x.value| < |y.value| ↔ x.magnitude < y.magnitude := by
  have unit : (0 : ℚ) < 2 ^ f.minExponent := by positivity
  rw [abs_value, abs_value, mul_lt_mul_iff_left₀ unit, Nat.cast_lt, f.strictMono_units.lt_iff_lt]

/-- Finite numbers are equal if they denote the same number. -/
theorem equals_iff (finite : x.isFinite = true) (finite' : y.isFinite = true) :
    x.equals y = true ↔ x.value = y.value := by
  rw [value_inj]
  simp [equals, isNaN_of_isFinite finite, isNaN_of_isFinite finite']

/-- A finite number is less than another if it denotes a lesser number. -/
theorem isLess_iff (finite : x.isFinite = true) (finite' : y.isFinite = true) :
    x.isLess y = true ↔ x.value < y.value := by
  rw [value_lt_value_iff]
  simp [isLess, isNaN_of_isFinite finite, isNaN_of_isFinite finite']

variable [f.Proper]

/-- A number is given by its sign and its value. -/
theorem eq_of_value (sign : x.isNegative = y.isNegative) (same : x.value = y.value) : x = y := by
  refine eq_of_parts sign ?_
  rw [← natAbs_place, value_inj.1 same, natAbs_place]

theorem value_ofMagnitude {negative : Bool} {m : Nat} (small : m < f.signWeight) :
    (ofMagnitude negative m : Binary f).value =
      (if negative then -1 else 1) * (f.units m * 2 ^ f.minExponent) := by
  rw [value, ← units_mul_eq, magnitude_ofMagnitude small, isNegative_ofMagnitude small]

/-! ## The largest finite number -/

theorem isFinite_largest : (largest : Binary f).isFinite = true :=
  isFinite_ofMagnitude (Nat.sub_lt FloatFormat.infinity_pos Nat.one_pos)

/-- The largest value has all digits, at the greatest exponent. -/
theorem abs_value_largest :
    |(largest : Binary f).value| = (2 ^ f.precision - 1) * 2 ^ f.maxExponent := by
  have weight := FloatFormat.infinity_lt_signWeight (f := f)
  have hidden := f.hidden_pos
  have canonical : f.Canonical f.maxPlace (2 * f.hidden - 1) := ⟨.inl (by omega), by omega⟩
  have full : ((2 * f.hidden - 1 : Nat) : ℚ) = 2 ^ f.precision - 1 := by
    rw [FloatFormat.two_mul_hidden, Nat.cast_pred (Nat.two_pow_pos _), Nat.cast_pow, Nat.cast_two]
  rw [abs_value, largest, magnitude_ofMagnitude (by omega), FloatFormat.infinity_sub_one,
    canonical.units_eq, FloatFormat.maxExponent, zpow_add₀ two_ne_zero, zpow_natCast, ← full,
    Nat.cast_mul, Nat.cast_pow, Nat.cast_two]
  ring

theorem abs_value_le_largest (finite : x.isFinite = true) :
    |x.value| ≤ |(largest : Binary f).value| := by
  have weight := FloatFormat.infinity_lt_signWeight (f := f)
  have bounded := magnitude_lt_infinity finite
  have top : (largest : Binary f).magnitude = f.infinity - 1 := magnitude_ofMagnitude (by omega)
  rw [← not_lt, abs_value_lt_iff, top]
  omega

end Binary

end NativeBridge
