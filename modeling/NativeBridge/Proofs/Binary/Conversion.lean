import NativeBridge.Proofs.Binary.Rounding

/-!
# Conversions between formats

A conversion keeps the sign of a number (`Binary.isNegative_convert`), and its value where the other
format has that (`Binary.value_convert`). Together these fix the result, so what a second format
represents comes back from it bit for bit, the zeros included (`Binary.convert_convert`).

A format that extends another has all of its numbers (`FloatFormat.Extends`). So going there and back
changes none of them (`Binary.convert_convert_of_extends`).
-/

namespace NativeBridge

/-- The numbers of the format `f` have few enough digits for `g`, the last of them in its range. -/
structure FloatFormat.Extends (g f : FloatFormat) : Prop where
  precision_le : f.precision ≤ g.precision
  minExponent_le : g.minExponent ≤ f.minExponent
  maxExponent_le : f.maxExponent ≤ g.maxExponent

/-- The 64-bit format has every number that the 32-bit one has. -/
theorem FloatFormat.double_extends_single : Extends .double .single :=
  ⟨by decide, by decide, by decide⟩

namespace Binary

variable {f g : FloatFormat} {x y : Binary f}

/-- There is one NaN that all of them are converted to. -/
theorem convert_of_isNaN (nan : x.isNaN = true) : (x.convert : Binary g) = Binary.nan := by
  rw [convert, if_pos nan]

theorem convert_of_isInfinite (unbounded : x.isInfinite = true) :
    (x.convert : Binary g) = infinite x.isNegative := by
  rw [convert, isNaN_of_isInfinite unbounded, if_neg Bool.false_ne_true, if_pos unbounded]

theorem convert_of_isFinite (finite : x.isFinite = true) :
    (x.convert : Binary g) = round x.isNegative x.significand x.exponent false := by
  rw [convert, isNaN_of_isFinite finite, isInfinite_of_isFinite finite, if_neg Bool.false_ne_true,
    if_neg Bool.false_ne_true]

section Value

variable [g.Proper]

/-- A conversion keeps the sign of what is not a NaN. -/
theorem isNegative_convert (number : x.isNaN = false) :
    (x.convert : Binary g).isNegative = x.isNegative := by
  unfold convert
  rw [number, if_neg Bool.false_ne_true]
  split
  · exact isNegative_ofMagnitude FloatFormat.infinity_lt_signWeight
  · exact isNegative_round

/-- What is not finite does not become so. -/
theorem isFinite_of_convert (finite : (x.convert : Binary g).isFinite = true) :
    x.isFinite = true := by
  obtain nan | unbounded | finite' := x.class_cases
  · rw [convert_of_isNaN nan] at finite
    exact absurd isNaN_nan (Bool.eq_false_iff.1 (isNaN_of_isFinite finite))
  · rw [convert_of_isInfinite unbounded] at finite
    exact absurd (isInfinite_infinite _) (Bool.eq_false_iff.1 (isInfinite_of_isFinite finite))
  · exact finite'

/-- A conversion keeps what the other format has. -/
theorem value_convert (finite : x.isFinite = true)
    (represented : ∃ y : Binary g, y.isFinite = true ∧ |y.value| = |x.value|) :
    (x.convert : Binary g).isFinite = true ∧ (x.convert : Binary g).value = x.value := by
  rw [convert_of_isFinite finite]
  rw [abs_value, units_mul_eq] at represented
  exact value_round represented

/-- A format has every finite number of one that it extends. -/
theorem exists_abs_value_eq_of_extends [f.Proper] (wider : g.Extends f)
    (finite : x.isFinite = true) : ∃ y : Binary g, y.isFinite = true ∧ |y.value| = |x.value| := by
  have range := exponent_le_maxExponent finite
  have above : f.minExponent ≤ x.exponent := by
    rw [exponent_eq]
    omega
  have short : x.significand < 2 ^ f.precision := by
    rw [← FloatFormat.two_mul_hidden]
    exact (f.canonical x.magnitude).short
  rw [abs_value, units_mul_eq]
  exact exists_abs_value_eq
    (short.trans_le (Nat.pow_le_pow_right Nat.two_pos wider.precision_le))
    (wider.minExponent_le.trans above) (range.trans wider.maxExponent_le)

/-- A format that extends another has its numbers. -/
theorem value_convert_of_extends [f.Proper] (wider : g.Extends f) (finite : x.isFinite = true) :
    (x.convert : Binary g).isFinite = true ∧ (x.convert : Binary g).value = x.value :=
  value_convert finite (exists_abs_value_eq_of_extends wider finite)

end Value

/-! ## There and back -/

section Back

variable [f.Proper] [g.Proper]

/-- A number that another format represents comes back from it bit for bit. -/
theorem convert_convert (represented : ((x.convert : Binary g).convert : Binary f).equals x = true) :
    ((x.convert : Binary g).convert : Binary f) = x := by
  simp only [equals, Bool.and_eq_true, Bool.not_eq_true', decide_eq_true_eq] at represented
  obtain ⟨⟨number', number⟩, same⟩ := represented
  have between : (x.convert : Binary g).isNaN = false := by
    refine Bool.eq_false_iff.2 fun nan => ?_
    rw [convert_of_isNaN nan, isNaN_nan] at number'
    cases number'
  refine eq_of_parts ?_ ?_
  · rw [isNegative_convert between, isNegative_convert number]
  · rw [← natAbs_place, same, natAbs_place]

theorem convert_convert_of_isInfinite (unbounded : x.isInfinite = true) :
    ((x.convert : Binary g).convert : Binary f) = x := by
  have sign := isNegative_convert (g := g) (isNaN_of_isInfinite unbounded)
  rw [convert_of_isInfinite unbounded] at sign ⊢
  rw [convert_of_isInfinite (isInfinite_infinite _), sign]
  exact (eq_infinite_of_isInfinite unbounded).symm

/-- A number comes back bit for bit from a format that extends its own. -/
theorem convert_convert_of_extends (wider : g.Extends f) (number : x.isNaN = false) :
    ((x.convert : Binary g).convert : Binary f) = x := by
  obtain nan | unbounded | finite := x.class_cases
  · rw [nan] at number
    cases number
  · exact convert_convert_of_isInfinite unbounded
  · obtain ⟨finite', same⟩ := value_convert_of_extends wider finite
    obtain ⟨-, same'⟩ := value_convert (g := f) finite' ⟨x, finite, congrArg _ same.symm⟩
    refine eq_of_value ?_ (same'.trans same)
    rw [isNegative_convert (isNaN_of_isFinite finite'), isNegative_convert number]

/-- What comes back from another format is what that format has. -/
theorem equals_convert_convert_iff (wider : f.Extends g) (finite : x.isFinite = true) :
    ((x.convert : Binary g).convert : Binary f).equals x = true ↔
      ∃ y : Binary g, y.isFinite = true ∧ y.value = x.value := by
  refine ⟨fun represented => ?_, ?_⟩
  · have back := convert_convert represented
    have finite' : (x.convert : Binary g).isFinite = true :=
      isFinite_of_convert (g := f) (by rw [back]; exact finite)
    refine ⟨x.convert, finite', ?_⟩
    rw [← (value_convert_of_extends wider finite').2, back]
  · rintro ⟨y, bounded, same⟩
    obtain ⟨finite', same'⟩ := value_convert finite ⟨y, bounded, congrArg _ same⟩
    obtain ⟨finite'', same''⟩ := value_convert_of_extends wider finite'
    exact (equals_iff finite'' finite).2 (same''.trans same')

/-- An integer that both formats have is converted to that of the other. -/
theorem convert_ofInt {n : Int} (small : n.natAbs ≤ 2 ^ f.precision)
    (small' : n.natAbs ≤ 2 ^ g.precision) :
    (ofInt n : Binary f).convert = (ofInt n : Binary g) := by
  obtain ⟨finite, same⟩ := value_ofInt small
  obtain ⟨finite', same'⟩ := value_ofInt small'
  obtain ⟨-, same''⟩ := value_convert (g := g) finite ⟨_, finite', by rw [same, same']⟩
  refine eq_of_value ?_ (by rw [same'', same, same'])
  rw [isNegative_convert (isNaN_of_isFinite finite)]
  exact isNegative_round.trans isNegative_round.symm

end Back

end Binary

end NativeBridge
