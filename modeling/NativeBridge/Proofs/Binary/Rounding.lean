import Mathlib.Tactic.NormNum.Pow
import NativeBridge.Proofs.Binary.Value

/-!
# Rounding what a format has

A number that a format has is rounded to itself, in whatever way its digits are written
(`Binary.value_round`) : its first digit fixes the last place that is kept
(`Binary.lastPlace_eq_of_canonical`), and what is dropped behind that place is zero.

A format has the numbers with at most as many digits as its precision and the last of them in its range
(`Binary.exists_abs_value_eq`), so the integers up to `2 ^ precision` among them (`Binary.value_ofInt`).
-/

namespace NativeBridge.Binary

variable {f g : FloatFormat} {m s : Nat} {q e : Int} {negative inexact : Bool}

/-! ## Digits -/

/-- A number has one digit more each time it is doubled. -/
theorem digits_mul_two_pow (positive : 0 < m) (s : Nat) : digits (m * 2 ^ s) = digits m + s := by
  have shifted : m * 2 ^ s ≠ 0 := Nat.ne_of_gt (Nat.mul_pos positive (Nat.two_pow_pos s))
  have log : (m * 2 ^ s).log2 = m.log2 + s := by
    rw [Nat.log2_eq_iff shifted]
    have above := Nat.log2_self_le (Nat.ne_of_gt positive)
    have below := Nat.lt_log2_self (n := m)
    refine ⟨?_, ?_⟩
    · rw [Nat.pow_add]
      exact Nat.mul_le_mul_right _ above
    · rw [Nat.add_right_comm, Nat.pow_add]
      exact Nat.mul_lt_mul_of_pos_right below (Nat.two_pow_pos s)
  unfold digits
  omega

theorem digits_le_iff (nonzero : m ≠ 0) (n : Nat) : digits m ≤ n ↔ m < 2 ^ n :=
  Nat.log2_lt nonzero

/-- A number has more than `n` digits if and only if it reaches the power of two. -/
theorem le_digits_iff (nonzero : m ≠ 0) (n : Nat) : n + 1 ≤ digits m ↔ 2 ^ n ≤ m := by
  have less := digits_le_iff nonzero n
  omega

/-- Two ways to write a number differ in a shift of the digits. -/
theorem mul_zpow_eq_iff :
    (m : ℚ) * 2 ^ q = s * 2 ^ e ↔ m * 2 ^ (q - e).toNat = s * 2 ^ (e - q).toNat := by
  obtain ⟨n, rfl⟩ | ⟨n, rfl⟩ : (∃ n : Nat, q = e + n) ∨ ∃ n : Nat, e = q + n := by
    obtain above | below := Int.le_total e q
    · exact .inl ⟨(q - e).toNat, by omega⟩
    · exact .inr ⟨(e - q).toNat, by omega⟩
  · have unit : (2 : ℚ) ^ e ≠ 0 := by positivity
    have up : (e + n - e).toNat = n := by omega
    have down : (e - (e + n)).toNat = 0 := by omega
    rw [up, down, zpow_add₀ two_ne_zero, zpow_natCast, mul_left_comm, mul_comm (s : ℚ),
      mul_right_inj' unit]
    norm_cast
    rw [pow_zero, mul_one]
  · have unit : (2 : ℚ) ^ q ≠ 0 := by positivity
    have up : (q + n - q).toNat = n := by omega
    have down : (q - (q + n)).toNat = 0 := by omega
    rw [up, down, zpow_add₀ two_ne_zero, zpow_natCast, mul_left_comm, mul_comm (m : ℚ),
      mul_right_inj' unit]
    norm_cast
    rw [pow_zero, mul_one]

/-- The first digit of a number is where it is, however the number is written. -/
theorem digits_add_eq (nonzero : s ≠ 0) (same : (m : ℚ) * 2 ^ q = s * 2 ^ e) :
    m ≠ 0 ∧ q + digits m = e + digits s := by
  rw [mul_zpow_eq_iff] at same
  have nonzero' : m ≠ 0 := by
    rintro rfl
    rw [Nat.zero_mul] at same
    exact absurd same.symm (Nat.mul_ne_zero nonzero (Nat.two_pow_pos _).ne')
  have first := congrArg digits same
  rw [digits_mul_two_pow (Nat.pos_of_ne_zero nonzero'),
    digits_mul_two_pow (Nat.pos_of_ne_zero nonzero)] at first
  exact ⟨nonzero', by omega⟩

/-! ## The last place -/

/-- A number that the format has keeps its place when it is rounded. -/
theorem lastPlace_eq_of_canonical [f.Proper] {place digits : Nat}
    (canonical : f.Canonical place digits)
    (same : (m : ℚ) * 2 ^ q = digits * 2 ^ (f.minExponent + place)) (nonzero : digits ≠ 0) :
    lastPlace f m q = f.minExponent + place := by
  obtain ⟨nonzero', first⟩ := digits_add_eq nonzero same
  have wide := FloatFormat.Proper.one_lt_precision (f := f)
  have short := canonical.short
  rw [FloatFormat.two_mul_hidden, ← digits_le_iff nonzero] at short
  rw [lastPlace, if_neg nonzero', first]
  obtain full | rfl := canonical.full
  · have full' := (le_digits_iff nonzero (f.precision - 1)).2 full
    omega
  · omega

/-- Zeros are dropped without rounding. -/
theorem shiftRound_mul_two_pow (s n : Nat) (inexact : Bool) :
    shiftRound (s * 2 ^ n) n inexact = s := by
  have unit : Nat.pow 2 n ≠ 0 := (Nat.two_pow_pos n).ne'
  have whole : s * 2 ^ n / Nat.pow 2 n = s := Nat.mul_div_cancel s (Nat.two_pow_pos n)
  have rest : s * 2 ^ n % Nat.pow 2 n = 0 := Nat.mul_mod_left s _
  unfold shiftRound
  simp only [whole, rest, Nat.mul_zero, Nat.not_lt_zero, unit.symm, decide_false, Bool.false_and,
    Bool.or_self, Bool.false_eq_true, if_false]

/-! ## Rounding to itself -/

section Round

variable {x y : Binary f}

/-- The magnitude that a rounding comes to, which is at most that of infinity. -/
theorem exists_round_eq (f : FloatFormat) (negative : Bool) (m : Nat) (q : Int) (inexact : Bool) :
    ∃ n ≤ f.infinity, (round negative m q inexact : Binary f) = ofMagnitude negative n :=
  ⟨_, Nat.min_le_right .., rfl⟩

theorem round_zero : (round negative 0 q inexact : Binary f) = ofMagnitude negative 0 := by
  have none : shiftRound 0 (f.minExponent - q).toNat inexact = 0 := by
    simpa using shiftRound_mul_two_pow 0 (f.minExponent - q).toNat inexact
  simp only [round, lastPlace, if_true, none, Nat.zero_mul, ite_self, Int.sub_self,
    Int.toNat_zero, Nat.add_zero, Nat.zero_min]

variable [f.Proper]

theorem isNegative_round : (round negative m q inexact : Binary f).isNegative = negative := by
  obtain ⟨n, small, same⟩ := exists_round_eq f negative m q inexact
  have weight := FloatFormat.infinity_lt_signWeight (f := f)
  rw [same, isNegative_ofMagnitude (by omega)]

/-- A number that the format has is rounded to itself. -/
theorem round_eq_of_abs_value (finite : y.isFinite = true) (same : |y.value| = m * 2 ^ q) :
    (round negative m q inexact : Binary f) = ofMagnitude negative y.magnitude := by
  have whole := f.place_mul_add_digits y.magnitude
  have canonical := f.canonical y.magnitude
  have bounded := magnitude_lt_infinity finite
  rw [abs_value, units_mul_eq, significand_eq, exponent_eq] at same
  obtain none | some := Nat.eq_zero_or_pos (f.digits y.magnitude)
  -- The number is zero, whose last place does not depend on `q`.
  · have least : f.place y.magnitude = 0 :=
      canonical.full.resolve_left (by have := f.hidden_pos; omega)
    have zero : m = 0 := by
      rw [none, Nat.cast_zero, zero_mul, zero_eq_mul] at same
      exact_mod_cast same.resolve_right (by positivity)
    rw [none, least, Nat.zero_mul] at whole
    rw [zero, round_zero, ← whole]
  · have last := lastPlace_eq_of_canonical canonical same.symm some.ne'
    have rounded : (if lastPlace f m q ≤ q then m * Nat.pow 2 (q - lastPlace f m q).toNat
        else shiftRound m (lastPlace f m q - q).toNat inexact) = f.digits y.magnitude := by
      rw [eq_comm, mul_zpow_eq_iff] at same
      rw [last]
      -- `m` lacks zeros of the significand, or it has zeros behind those.
      split_ifs with kept
      · have down : (f.minExponent + f.place y.magnitude - q).toNat = 0 := by omega
        rw [down, pow_zero, mul_one] at same
        exact same
      · have up : (q - (f.minExponent + f.place y.magnitude)).toNat = 0 := by omega
        rw [up, pow_zero, mul_one] at same
        rw [same, shiftRound_mul_two_pow]
    have places : (f.minExponent + f.place y.magnitude - f.minExponent).toNat =
        f.place y.magnitude := by omega
    unfold round
    simp only [rounded]
    rw [last, places, whole, Nat.min_eq_left bounded.le]

/-- A number that the format has is rounded to itself. -/
theorem value_round (represented : ∃ y : Binary f, y.isFinite = true ∧ |y.value| = m * 2 ^ q) :
    (round negative m q inexact : Binary f).isFinite = true ∧
      (round negative m q inexact : Binary f).value =
        (if negative then -1 else 1) * (m * 2 ^ q) := by
  obtain ⟨y, finite, same⟩ := represented
  have bounded := magnitude_lt_infinity finite
  have weight := FloatFormat.infinity_lt_signWeight (f := f)
  rw [round_eq_of_abs_value finite same, value_ofMagnitude (by omega), ← abs_value, same]
  exact ⟨isFinite_ofMagnitude bounded, rfl⟩

end Round

/-! ## What a format has -/

section Range

variable [f.Proper]

/-- All digits are kept, and their last place is as far up as the format has it. -/
theorem canonical_of_lastPlace_le (kept : lastPlace f m q ≤ q) :
    f.Canonical (lastPlace f m q - f.minExponent).toNat
      (m * 2 ^ (q - lastPlace f m q).toNat) := by
  have wide := FloatFormat.Proper.one_lt_precision (f := f)
  obtain rfl | positive := Nat.eq_zero_or_pos m
  · refine ⟨.inr ?_, ?_⟩
    · rw [lastPlace, if_pos rfl, Int.sub_self, Int.toNat_zero]
    · rw [Nat.zero_mul]
      have := f.hidden_pos
      omega
  have shifted : m * 2 ^ (q - lastPlace f m q).toNat ≠ 0 :=
    Nat.mul_ne_zero positive.ne' (Nat.two_pow_pos _).ne'
  have digits := digits_mul_two_pow positive (q - lastPlace f m q).toNat
  have last : lastPlace f m q = max (q + Binary.digits m - f.precision) f.minExponent :=
    if_neg positive.ne'
  refine ⟨?_, ?_⟩
  · by_cases least : lastPlace f m q = f.minExponent
    · exact .inr (by omega)
    · exact .inl ((le_digits_iff shifted (f.precision - 1)).1 (by omega))
  · rw [FloatFormat.two_mul_hidden, ← digits_le_iff shifted]
    omega

/-- A format has the numbers with few enough digits and the last of them in its range. -/
theorem exists_abs_value_eq (short : m < 2 ^ f.precision) (least : f.minExponent ≤ q)
    (most : q ≤ f.maxExponent) :
    ∃ y : Binary f, y.isFinite = true ∧ |y.value| = m * 2 ^ q := by
  have kept : lastPlace f m q ≤ q := by
    unfold lastPlace
    split_ifs with zero
    · exact least
    · have few := (digits_le_iff zero f.precision).2 short
      omega
  have above : f.minExponent ≤ lastPlace f m q := by
    unfold lastPlace
    split_ifs <;> omega
  have canonical := canonical_of_lastPlace_le kept
  have place : f.minExponent + (lastPlace f m q - f.minExponent).toNat = lastPlace f m q := by omega
  have finite := FloatFormat.lt_infinity_iff.2 <| canonical.parts.1.trans_le <| by
    unfold FloatFormat.maxExponent at most
    omega
  have weight := FloatFormat.infinity_lt_signWeight (f := f)
  refine ⟨ofMagnitude false _, isFinite_ofMagnitude finite, ?_⟩
  rw [abs_value, magnitude_ofMagnitude (by omega), canonical.units_eq, Nat.cast_mul, Nat.cast_pow,
    Nat.cast_two, mul_assoc, ← zpow_natCast, ← zpow_add₀ two_ne_zero, add_comm, place,
    mul_zpow_eq_iff]
  have down : (lastPlace f m q - q).toNat = 0 := by omega
  rw [down, pow_zero, mul_one]

/-- The last digit of a finite number lies in the range. -/
theorem exponent_le_maxExponent {y : Binary f} (finite : y.isFinite = true) :
    y.exponent ≤ f.maxExponent := by
  have place := FloatFormat.lt_infinity_iff.1 (magnitude_lt_infinity finite)
  rw [exponent_eq, FloatFormat.maxExponent]
  omega

/-- A format has the integers up to `2 ^ precision`. The last of these has a digit too many, but a zero
there. -/
theorem value_ofInt {n : Int} (small : n.natAbs ≤ 2 ^ f.precision) :
    (ofInt n : Binary f).isFinite = true ∧ (ofInt n : Binary f).value = n := by
  have even := FloatFormat.two_mul_hidden (f := f)
  have least := FloatFormat.minExponent_le_zero (f := f)
  have most := FloatFormat.one_le_maxExponent (f := f)
  have represented : ∃ y : Binary f, y.isFinite = true ∧ |y.value| = n.natAbs * 2 ^ (0 : Int) := by
    obtain below | top := small.lt_or_eq
    · exact exists_abs_value_eq below (by omega) (by omega)
    · have hidden := f.hidden_pos
      obtain ⟨y, finite, same⟩ := exists_abs_value_eq (f := f) (m := f.hidden) (q := 1)
        (by omega) (by omega) most
      refine ⟨y, finite, same.trans ?_⟩
      rw [top, ← even, zpow_one, zpow_zero]
      push_cast
      ring
  have rounded : (ofInt n : Binary f).isFinite = true ∧ (ofInt n : Binary f).value =
      (if decide (n < 0) then -1 else 1) * (n.natAbs * 2 ^ (0 : Int)) := value_round represented
  refine ⟨rounded.1, rounded.2.trans ?_⟩
  rw [zpow_zero, mul_one]
  simp only [decide_eq_true_eq]
  split_ifs with below
  · rw [neg_one_mul, ← Int.cast_natCast, ← Int.cast_neg, Int.cast_inj]
    omega
  · rw [one_mul, ← Int.cast_natCast, Int.cast_inj]
    omega

end Range

end NativeBridge.Binary
