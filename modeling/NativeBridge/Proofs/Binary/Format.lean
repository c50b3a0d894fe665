import Mathlib.Algebra.Group.Nat.Defs
import Mathlib.Order.Monotone.Basic
import Mathlib.Tactic.SplitIfs
import NativeBridge.Binary.Round

/-!
# Patterns of a format

A pattern is a sign and a magnitude (`Binary.eq_of_parts`), and the magnitudes of finite numbers,
infinities and NaNs follow each other below the sign bit (`FloatFormat.infinity_lt_signWeight`).

A magnitude is also a number of digits and the place of the last one : it is the sum of the significand
and of as many times the least normal one as places lie below (`FloatFormat.place_mul_add_digits`).
Every magnitude is such a sum in one way (`FloatFormat.Canonical`).
-/

namespace NativeBridge

namespace FloatFormat

/-- A format with more than one digit, whose exponents reach beyond its digits to both sides. -/
class Proper (f : FloatFormat) : Prop where
  one_lt_precision : 1 < f.precision
  precision_lt : f.precision < 2 ^ (f.exponentBits - 1)

instance : Proper .double := ⟨by decide, by decide⟩

instance : Proper .single := ⟨by decide, by decide⟩

variable {f : FloatFormat}

theorem hidden_pos (f : FloatFormat) : 0 < f.hidden := Nat.two_pow_pos _

section Proper

variable [f.Proper]

theorem two_mul_hidden : 2 * f.hidden = 2 ^ f.precision := by
  have digits : f.precision - 1 + 1 = f.precision := by
    have wide := Proper.one_lt_precision (f := f)
    omega
  exact (Nat.pow_succ' ..).symm.trans (congrArg (2 ^ ·) digits)

theorem two_dvd_hidden : 2 ∣ f.hidden := by
  have wide := Proper.one_lt_precision (f := f)
  exact Nat.pow_dvd_pow 2 (by omega : 1 ≤ f.precision - 1)

/-- The patterns from infinity up to the sign bit are as many as the significands. -/
theorem infinity_add_hidden : f.infinity + f.hidden = f.signWeight := by
  have width : f.width - 1 = f.exponentBits + (f.precision - 1) := by
    have wide := Proper.one_lt_precision (f := f)
    unfold width
    omega
  have weight : f.signWeight = 2 ^ f.exponentBits * f.hidden := by
    rw [signWeight, hidden, width]
    exact Nat.pow_add ..
  rw [weight, infinity, ← Nat.succ_mul]
  exact congrArg (· * f.hidden) (Nat.sub_add_cancel (Nat.two_pow_pos _))

theorem infinity_lt_signWeight : f.infinity < f.signWeight := by
  have sum := infinity_add_hidden (f := f)
  have hidden := f.hidden_pos
  omega

theorem two_mul_signWeight : 2 * f.signWeight = Nat.pow 2 f.width := by
  have width : f.width - 1 + 1 = f.width := by
    have wide := Proper.one_lt_precision (f := f)
    unfold width
    omega
  exact (Nat.pow_succ' ..).symm.trans (congrArg (2 ^ ·) width)

end Proper

/-! ## Digits and places -/

/-- How far the last place of a magnitude lies above the least one. -/
def place (f : FloatFormat) (magnitude : Nat) : Nat := magnitude / f.hidden - 1

/-- The significand of a magnitude. -/
def digits (f : FloatFormat) (magnitude : Nat) : Nat :=
  if magnitude < f.hidden then magnitude % f.hidden else f.hidden + magnitude % f.hidden

/-- The number of a magnitude, in units of the least positive number. -/
def units (f : FloatFormat) (magnitude : Nat) : Nat := f.digits magnitude * 2 ^ f.place magnitude

/-- All digits are in use, unless the last place is the least. -/
structure Canonical (f : FloatFormat) (place digits : Nat) : Prop where
  full : f.hidden ≤ digits ∨ place = 0
  short : digits < 2 * f.hidden

/-- Every magnitude has a place and digits in canonical form. -/
theorem canonical (f : FloatFormat) (magnitude : Nat) :
    f.Canonical (f.place magnitude) (f.digits magnitude) := by
  have rest := Nat.mod_lt magnitude f.hidden_pos
  unfold place digits
  split_ifs with small
  · exact ⟨.inr (by rw [Nat.div_eq_of_lt small]), by omega⟩
  · exact ⟨.inl (Nat.le_add_right ..), by omega⟩

/-- A magnitude is put together again from its place and its digits. -/
theorem place_mul_add_digits (f : FloatFormat) (magnitude : Nat) :
    f.place magnitude * f.hidden + f.digits magnitude = magnitude := by
  unfold place digits
  split_ifs with small
  · rw [Nat.div_eq_of_lt small, Nat.mod_eq_of_lt small, Nat.zero_mul, Nat.zero_add]
  · have one : 1 ≤ magnitude / f.hidden := Nat.div_pos (Nat.le_of_not_lt small) f.hidden_pos
    have least := Nat.mul_le_mul_right f.hidden one
    have whole := Nat.div_add_mod' magnitude f.hidden
    rw [Nat.sub_mul]
    omega

/-- The place of the last digit of the largest finite numbers. -/
def maxPlace (f : FloatFormat) : Nat := 2 ^ f.exponentBits - 3

/-- Exponent of the last place of the largest finite numbers. -/
def maxExponent (f : FloatFormat) : Int := f.minExponent + f.maxPlace

theorem two_pow_exponentBits [f.Proper] :
    2 ^ f.exponentBits = 2 * 2 ^ (f.exponentBits - 1) ∧ 2 < 2 ^ (f.exponentBits - 1) := by
  have wide := Proper.one_lt_precision (f := f)
  have far := Proper.precision_lt (f := f)
  have some : f.exponentBits ≠ 0 := by
    intro none
    rw [none] at far
    omega
  have bits : f.exponentBits - 1 + 1 = f.exponentBits := by omega
  exact ⟨(congrArg (2 ^ ·) bits).symm.trans Nat.pow_succ', by omega⟩

/-- The last place of an integer lies in the range. -/
theorem minExponent_le_zero [f.Proper] : f.minExponent ≤ 0 := by
  have large := (two_pow_exponentBits (f := f)).2
  have least : f.minExponent = 3 - Nat.cast (2 ^ (f.exponentBits - 1)) - f.precision := rfl
  generalize 2 ^ (f.exponentBits - 1) = half at least large
  omega

theorem one_le_maxExponent [f.Proper] : 1 ≤ f.maxExponent := by
  obtain ⟨double, large⟩ := two_pow_exponentBits (f := f)
  have far := Proper.precision_lt (f := f)
  have least : f.minExponent = 3 - Nat.cast (2 ^ (f.exponentBits - 1)) - f.precision := rfl
  unfold maxExponent maxPlace
  rw [double]
  generalize 2 ^ (f.exponentBits - 1) = half at least large far
  omega

/-- The finite magnitudes are those in the range of places. -/
theorem lt_infinity_iff [f.Proper] {magnitude : Nat} :
    magnitude < f.infinity ↔ f.place magnitude ≤ f.maxPlace := by
  obtain ⟨double, large⟩ := two_pow_exponentBits (f := f)
  have infinity : f.infinity = (2 ^ f.exponentBits - 1) * f.hidden := rfl
  rw [infinity, ← Nat.div_lt_iff_lt_mul f.hidden_pos, place, maxPlace]
  omega

theorem infinity_pos [f.Proper] : 0 < f.infinity :=
  lt_infinity_iff.2 (by rw [place, Nat.zero_div]; exact Nat.zero_le _)

/-- The largest finite magnitude has all digits in use and set, in the last place of the range. -/
theorem infinity_sub_one [f.Proper] :
    f.infinity - 1 = f.maxPlace * f.hidden + (2 * f.hidden - 1) := by
  obtain ⟨double, large⟩ := two_pow_exponentBits (f := f)
  have hidden := f.hidden_pos
  have infinity : f.infinity = (2 ^ f.exponentBits - 1) * f.hidden := rfl
  have places : 2 ^ f.exponentBits - 1 = f.maxPlace + 2 := by
    unfold maxPlace
    omega
  rw [infinity, places, Nat.add_mul]
  omega

namespace Canonical

variable {place digits : Nat}

/-- Digits in their place are those of one magnitude. -/
theorem parts (canonical : f.Canonical place digits) :
    f.place (place * f.hidden + digits) = place ∧
      f.digits (place * f.hidden + digits) = digits := by
  have short := canonical.short
  unfold FloatFormat.place FloatFormat.digits
  obtain full | rfl := canonical.full
  · obtain ⟨rest, rfl⟩ := Nat.exists_eq_add_of_le full
    have below : rest < f.hidden := by omega
    have whole : place * f.hidden + (f.hidden + rest) = rest + f.hidden * (place + 1) := by
      rw [Nat.mul_succ, Nat.mul_comm f.hidden]
      omega
    rw [whole, if_neg (by rw [Nat.mul_succ]; omega), Nat.add_mul_mod_self_left,
      Nat.add_mul_div_left _ _ f.hidden_pos, Nat.mod_eq_of_lt below, Nat.div_eq_of_lt below]
    exact ⟨by omega, rfl⟩
  · rw [Nat.zero_mul, Nat.zero_add]
    split_ifs with small
    · rw [Nat.div_eq_of_lt small, Nat.mod_eq_of_lt small]
      exact ⟨rfl, rfl⟩
    · have one : digits / f.hidden = 1 := Nat.div_eq_of_lt_le (by omega) (by omega)
      have whole := Nat.div_add_mod digits f.hidden
      rw [one] at whole ⊢
      exact ⟨rfl, by omega⟩

/-- The units of a magnitude in canonical form, in terms of its place and digits. -/
theorem units_eq (canonical : f.Canonical place digits) :
    f.units (place * f.hidden + digits) = digits * 2 ^ place := by
  rw [units, canonical.parts.1, canonical.parts.2]

end Canonical

/-! ## Order -/

theorem units_zero (f : FloatFormat) : f.units 0 = 0 := by
  rw [units, digits, if_pos f.hidden_pos, Nat.zero_mod, Nat.zero_mul]

/-- The next magnitude has one digit more in the last place. A carry out of the digits moves into the
place. -/
theorem units_lt_units_succ (f : FloatFormat) (magnitude : Nat) :
    f.units magnitude < f.units (magnitude + 1) := by
  have canonical := f.canonical magnitude
  have whole := f.place_mul_add_digits magnitude
  generalize f.place magnitude = place at canonical whole
  generalize f.digits magnitude = digits at canonical whole
  subst whole
  have unit : 0 < 2 ^ place := Nat.two_pow_pos place
  have short := canonical.short
  rw [canonical.units_eq]
  by_cases carry : digits + 1 < 2 * f.hidden
  · have next : f.Canonical place (digits + 1) :=
      ⟨canonical.full.imp_left (Nat.le_trans · (Nat.le_succ _)), carry⟩
    rw [Nat.add_assoc, next.units_eq]
    exact Nat.mul_lt_mul_of_pos_right (Nat.lt_succ_self _) unit
  · have next : f.Canonical (place + 1) f.hidden :=
      ⟨.inl (Nat.le_refl _), by have := f.hidden_pos; omega⟩
    have sum : place * f.hidden + digits + 1 = (place + 1) * f.hidden + f.hidden := by
      rw [Nat.succ_mul]
      omega
    have double : f.hidden * 2 ^ (place + 1) = 2 * f.hidden * 2 ^ place := by
      rw [Nat.pow_succ', ← Nat.mul_assoc, Nat.mul_comm f.hidden 2]
    rw [sum, next.units_eq, double]
    exact Nat.mul_lt_mul_of_pos_right short unit

/-- Greater magnitudes have more units. So patterns are ordered as numbers are. -/
theorem strictMono_units (f : FloatFormat) : StrictMono f.units :=
  strictMono_nat_of_lt_succ f.units_lt_units_succ

end FloatFormat

/-! ## Sign and magnitude -/

namespace Binary

variable {f : FloatFormat} {negative : Bool} {m : Nat} {x y : Binary f}

theorem significand_eq (x : Binary f) : x.significand = f.digits x.magnitude := rfl

theorem exponent_eq (x : Binary f) : x.exponent = f.minExponent + f.place x.magnitude := rfl

theorem natAbs_place (x : Binary f) : x.place.natAbs = x.magnitude := by
  unfold place
  split <;> omega

theorem magnitude_lt_infinity (finite : x.isFinite = true) : x.magnitude < f.infinity :=
  of_decide_eq_true finite

theorem isNaN_of_isFinite (finite : x.isFinite = true) : x.isNaN = false := by
  simp only [isFinite, isNaN, decide_eq_true_eq, decide_eq_false_iff_not] at finite ⊢
  omega

theorem isInfinite_of_isFinite (finite : x.isFinite = true) : x.isInfinite = false := by
  simp only [isFinite, isInfinite, decide_eq_true_eq, decide_eq_false_iff_not] at finite ⊢
  omega

theorem isNaN_of_isInfinite (unbounded : x.isInfinite = true) : x.isNaN = false := by
  simp only [isInfinite, isNaN, decide_eq_true_eq, decide_eq_false_iff_not] at unbounded ⊢
  omega

/-- A pattern is that of a NaN, of an infinity or of a finite number. -/
theorem class_cases (x : Binary f) :
    x.isNaN = true ∨ x.isInfinite = true ∨ x.isFinite = true := by
  simp only [isNaN, isInfinite, isFinite, decide_eq_true_eq]
  omega

variable [f.Proper]

/-- A pattern is its sign and its magnitude, side by side. -/
theorem bits_ofMagnitude (small : m < f.signWeight) :
    (ofMagnitude negative m : Binary f).bits = (if negative then f.signWeight else 0) + m := by
  have double := FloatFormat.two_mul_signWeight (f := f)
  unfold ofMagnitude ofBits
  cases negative with
  | true => exact Nat.mod_eq_of_lt (by rw [← double, if_pos rfl]; omega)
  | false =>
    refine (Nat.mod_eq_of_lt ?_).trans (Nat.zero_add m).symm
    rw [← double, if_neg Bool.false_ne_true]
    omega

theorem magnitude_ofMagnitude (small : m < f.signWeight) :
    (ofMagnitude negative m : Binary f).magnitude = m := by
  rw [magnitude, bits_ofMagnitude small]
  cases negative with
  | true => exact (Nat.add_mod_left ..).trans (Nat.mod_eq_of_lt small)
  | false => exact (congrArg (· % f.signWeight) (Nat.zero_add m)).trans (Nat.mod_eq_of_lt small)

theorem isNegative_ofMagnitude (small : m < f.signWeight) :
    (ofMagnitude negative m : Binary f).isNegative = negative := by
  rw [isNegative, bits_ofMagnitude small]
  cases negative <;> simp [small]

theorem isFinite_ofMagnitude (small : m < f.infinity) :
    (ofMagnitude negative m : Binary f).isFinite = true := by
  have weight := FloatFormat.infinity_lt_signWeight (f := f)
  rw [isFinite, magnitude_ofMagnitude (by omega), decide_eq_true_eq]
  exact small

theorem isInfinite_infinite (negative : Bool) : (infinite negative : Binary f).isInfinite = true := by
  rw [isInfinite, infinite, magnitude_ofMagnitude FloatFormat.infinity_lt_signWeight]
  exact decide_eq_true rfl

theorem isNaN_nan : (nan : Binary f).isNaN = true := by
  have sum := FloatFormat.infinity_add_hidden (f := f)
  have half : 0 < f.hidden / 2 :=
    Nat.div_pos (Nat.le_of_dvd f.hidden_pos FloatFormat.two_dvd_hidden) Nat.two_pos
  unfold isNaN nan
  rw [magnitude_ofMagnitude (by omega), decide_eq_true_eq]
  omega

/-- A pattern is put together again from its sign and its magnitude. -/
theorem bits_eq (x : Binary f) :
    x.bits = (if x.isNegative then f.signWeight else 0) + x.magnitude := by
  have bound := x.bits_lt
  rw [← FloatFormat.two_mul_signWeight] at bound
  unfold isNegative magnitude
  by_cases small : x.bits < f.signWeight
  · rw [Nat.mod_eq_of_lt small, if_neg (by simpa using small), Nat.zero_add]
  · rw [Nat.mod_eq_sub_mod (by omega), Nat.mod_eq_of_lt (by omega), if_pos (by simpa using small)]
    omega

/-- A number is given by its sign and its magnitude. -/
theorem eq_of_parts (sign : x.isNegative = y.isNegative) (same : x.magnitude = y.magnitude) :
    x = y := by
  have bits : x.bits = y.bits := by rw [bits_eq x, bits_eq y, sign, same]
  cases x
  cases bits
  rfl

/-- There is one infinite pattern for each sign. -/
theorem eq_infinite_of_isInfinite (unbounded : x.isInfinite = true) : x = infinite x.isNegative := by
  have weight := FloatFormat.infinity_lt_signWeight (f := f)
  have magnitude : x.magnitude = f.infinity := by simpa [isInfinite] using unbounded
  refine eq_of_parts (isNegative_ofMagnitude weight).symm ?_
  rw [magnitude, infinite, magnitude_ofMagnitude weight]

end Binary

end NativeBridge
