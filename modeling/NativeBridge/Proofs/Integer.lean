import Mathlib.Tactic.SplitIfs
import NativeBridge.Integer

/-!
# Integers that fit

An integer enters a type of fixed width as itself (`Fixed.fit?_eq_some_iff`), or it lies beyond one of
its ends (`Fixed.fit?_eq_none_iff`). Of the integers of native code, the host misses those of unsigned
types above its own greatest (`Fixed.fit?_i64_eq_none_iff`).
-/

namespace NativeBridge.Fixed

variable {w : IntType} {n : Int} {v : Fixed w}

theorem fit?_eq_some_iff : fit? w n = some v ↔ v.val = n := by
  unfold fit?
  split_ifs with fits
  · refine ⟨fun same => ?_, fun same => ?_⟩
    · cases same
      rfl
    · exact congrArg some (Fixed.ext same.symm)
  · refine ⟨nofun, fun same => ?_⟩
    exact absurd (same ▸ v.fits) fits

/-- A number does not fit if it is below the least or above the greatest. -/
theorem fit?_eq_none_iff : fit? w n = none ↔ n < w.min ∨ w.max < n := by
  unfold fit?
  split_ifs with fits
  · simp only [false_iff]
    omega
  · simp only [true_iff]
    omega

/-- The integers of native code that the host does not have are unsigned, and above its greatest. -/
theorem fit?_i64_eq_none_iff :
    fit? .i64 v.val = none ↔ w.isSigned = false ∧ IntType.i64.max < v.val := by
  have fits := v.fits
  rw [fit?_eq_none_iff]
  cases w <;>
    simp only [IntType.min, IntType.max, IntType.isSigned, IntType.bits, if_true,
      Bool.false_eq_true, if_false, Nat.pow_eq, Nat.reduceSub, Nat.reducePow, true_and,
      Bool.true_eq_false, false_and, iff_false] at fits ⊢ <;>
    omega

end NativeBridge.Fixed
