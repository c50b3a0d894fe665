import NativeBridge.Gallery.Exhibit
import NativeBridge.Marshal
import NativeBridge.Proofs.Binary.Conversion

/-!
# Floats from host values

An integer becomes a float under `NumericPolicy.widening` up to the bound to which the format has every
integer, and the float denotes that integer. So equal floats come from equal integers, and the order is
kept (`NativeType.widening_exact`).

A host float becomes one of 32 bits if it is a NaN, an infinity or the value of a number of 32 bits
(`Binary64.narrow_eq`). Widened again it is what it was, bit for bit, and so is a number of 32 bits
that has been to the host (`NativeType.narrowing_exact`).
-/

namespace NativeBridge

variable {C : Catalog}

namespace Outcome

variable {ε α : Type} {x : Except ε α}

@[simp] theorem ofExcept_eq_ok_iff {a : α} : ofExcept x = .ok a ↔ x = .ok a := by
  cases x <;> simp [ofExcept]

@[simp] theorem ofExcept_eq_error_iff {e : ε} : ofExcept x = .error e ↔ x = .error e := by
  cases x <;> simp [ofExcept]

theorem ofExcept_ne_panic (p : Payload) : ofExcept x ≠ .panic p := by
  cases x <;> rintro ⟨⟩

end Outcome

/-! ## Integers -/

section Widening

variable {f : FloatFormat} {policy : NumericPolicy} {target : String}

/-- What becomes of a host integer where a float is wanted. The float denotes the integer, and is equal
to another or less just as the integer is. -/
structure WidensExactly (policy : NumericPolicy) (bound : Nat) (target : String)
    (widen : HostInt → Outcome ConversionError (Binary f)) : Prop where
  accepted n : (∃ x, widen n = .ok x) ↔ policy = .widening ∧ n.val.natAbs ≤ bound
  forbidden n : policy = .strict → widen n = .error (.typeMismatch "float" "int")
  refused n : policy = .widening → bound < n.val.natAbs →
    widen n = .error (.lossyWidening n.val target)
  denotes n x : widen n = .ok x → x.isFinite = true ∧ x.value = n.val
  equals_iff m n x y : widen m = .ok x → widen n = .ok y → (x.equals y = true ↔ m = n)
  isLess_iff m n x y : widen m = .ok x → widen n = .ok y → (x.isLess y = true ↔ m.val < n.val)

/-- An integer is taken for a float if the policy widens, and the format has all integers up to its
size. -/
theorem NumericPolicy.widen_eq_ok_iff {n : HostInt} {x : Binary f} :
    policy.widen f target n = .ok x ↔
      policy = .widening ∧ n.val.natAbs ≤ 2 ^ f.precision ∧ x = Binary.ofInt n.val := by
  cases policy with
  | strict => simp [widen]
  | widening =>
    by_cases small : n.val.natAbs ≤ 2 ^ f.precision
    · simp [widen, small, eq_comm]
    · simp [widen, small]

/-- Widening is exact up to the power of two that the format has digits for. -/
theorem NumericPolicy.widensExactly (policy : NumericPolicy) (f : FloatFormat) [f.Proper]
    (target : String) :
    WidensExactly policy (2 ^ f.precision) target
      fun n => .ofExcept (policy.widen f target n) := by
  have denotes n (x : Binary f) (widened : Outcome.ofExcept (policy.widen f target n) = .ok x) :
      x.isFinite = true ∧ x.value = n.val := by
    obtain ⟨-, small, rfl⟩ := widen_eq_ok_iff.1 (Outcome.ofExcept_eq_ok_iff.1 widened)
    exact Binary.value_ofInt small
  refine ⟨fun n => ?_, ?_, ?_, denotes, ?_, ?_⟩
  · simp [widen_eq_ok_iff]
  · rintro n rfl
    rfl
  · rintro n rfl large
    exact congrArg Outcome.ofExcept (if_neg (Nat.not_le_of_lt large))
  · intro m n x y widened widened'
    obtain ⟨finite, value⟩ := denotes m x widened
    obtain ⟨finite', value'⟩ := denotes n y widened'
    rw [Binary.equals_iff finite finite', value, value', Int.cast_inj]
    exact ⟨Fixed.ext, congrArg _⟩
  · intro m n x y widened widened'
    obtain ⟨finite, value⟩ := denotes m x widened
    obtain ⟨finite', value'⟩ := denotes n y widened'
    rw [Binary.isLess_iff finite finite', value, value', Int.cast_lt]

/-- Host integers become floats without loss. One that becomes a float of 32 bits also becomes one of 64
bits, which is converted to that. -/
theorem NativeType.widening_exact (policy : NumericPolicy) (heap : Heap C) :
    WidensExactly policy (2 ^ 53) "f64" (fun n => f64.fromHost policy heap (.int n)) ∧
      WidensExactly policy (2 ^ 24) "f32" (fun n => f32.fromHost policy heap (.int n)) ∧
      ∀ n x, f32.fromHost policy heap (.int n) = .ok x →
        ∃ y, f64.fromHost policy heap (.int n) = .ok y ∧ y.convert = x := by
  refine ⟨policy.widensExactly .double "f64", policy.widensExactly .single "f32", ?_⟩
  intro n x widened
  obtain ⟨rfl, small, rfl⟩ :=
    NumericPolicy.widen_eq_ok_iff.1 (Outcome.ofExcept_eq_ok_iff.1 widened)
  have small' : n.val.natAbs ≤ 2 ^ 53 := small.trans (by decide)
  have widened' : NumericPolicy.widening.widen .double "f64" n = .ok (Binary.ofInt n.val) :=
    NumericPolicy.widen_eq_ok_iff.2 ⟨rfl, small', rfl⟩
  exact ⟨_, congrArg Outcome.ofExcept widened', Binary.convert_ofInt small' small⟩

open Gallery in
/-- The bound of 32 bits, which has a digit more than the format. -/
theorem NativeType.widening_exact_bound :
    let n : HostInt := .wrap .i64 (2 ^ 24)
    let single : NativeType catalog := f32
    let double : NativeType catalog := f64
    ∃ (x : Binary32) (y : Binary64),
      single.fromHost .widening .empty (.int n) = .ok x ∧ x.value = 2 ^ 24 ∧
        double.fromHost .widening .empty (.int n) = .ok y ∧ y.convert = x := by
  intro n single double
  obtain ⟨-, widens, also⟩ := widening_exact (C := catalog) .widening .empty
  obtain ⟨x, widened⟩ := (widens.accepted n).2 ⟨rfl, by decide⟩
  obtain ⟨y, widened', narrowed⟩ := also n x widened
  have bound : n.val = 2 ^ 24 := by decide
  have value := (widens.denotes n x widened).2
  rw [bound] at value
  exact ⟨x, y, widened, by exact_mod_cast value, widened', narrowed⟩

end Widening

/-! ## Floats -/

namespace Binary64

variable {d : Binary64}

/-- The number is not finite, or is the value of a number of 32 bits. -/
def FitsSingle (d : Binary64) : Prop :=
  d.isNaN = true ∨ d.isInfinite = true ∨
    d.isFinite = true ∧ ∃ s : Binary32, s.isFinite = true ∧ s.value = d.value

/-- The number is finite and exceeds the largest of 32 bits. -/
def ExceedsSingle (d : Binary64) : Prop :=
  d.isFinite = true ∧ (2 ^ 24 - 1) * 2 ^ 104 < |d.value|

theorem abs_value_largest_single :
    |(Binary.largest : Binary32).value| = (2 ^ 24 - 1) * 2 ^ 104 :=
  Binary.abs_value_largest

/-- The first guard compares patterns of 64 bits, and so it compares values. -/
theorem exceedsSingle_iff :
    (d.isFinite && decide (((Binary.largest : Binary32).convert : Binary64).magnitude <
      d.magnitude)) = true ↔ d.ExceedsSingle := by
  have widened := Binary.value_convert_of_extends FloatFormat.double_extends_single
    (Binary.isFinite_largest : (Binary.largest : Binary32).isFinite = true)
  rw [Bool.and_eq_true, decide_eq_true_eq, ← Binary.abs_value_lt_iff, widened.2,
    abs_value_largest_single, ExceedsSingle]

/-- The second guard widens what it has narrowed, and gets the number back if that fits. -/
theorem fitsSingle_iff :
    (d.isNaN || ((d.convert : Binary32).convert : Binary64).equals d) = true ↔ d.FitsSingle := by
  rw [Bool.or_eq_true, FitsSingle]
  -- A NaN comes back as a NaN, which is not equal to it : the guard has to ask for it first.
  refine or_congr_right' fun number => ?_
  obtain unbounded | finite := d.class_cases.resolve_left number
  · rw [Binary.convert_convert_of_isInfinite unbounded]
    simp [Binary.equals, Binary.isNaN_of_isInfinite unbounded, unbounded]
  · rw [Binary.equals_convert_convert_iff FloatFormat.double_extends_single finite]
    simp [Binary.isInfinite_of_isFinite finite, finite]

theorem FitsSingle.not_exceedsSingle (fits : d.FitsSingle) : ¬d.ExceedsSingle := by
  rintro ⟨finite, beyond⟩
  obtain nan | unbounded | ⟨-, s, finite', same⟩ := fits
  · rw [Binary.isNaN_of_isFinite finite] at nan
    cases nan
  · rw [Binary.isInfinite_of_isFinite finite] at unbounded
    cases unbounded
  · have bound := Binary.abs_value_le_largest finite'
    rw [same, abs_value_largest_single] at bound
    exact absurd beyond (not_lt_of_ge bound)

instance : Decidable d.FitsSingle := decidable_of_iff _ fitsSingle_iff

instance : Decidable d.ExceedsSingle := decidable_of_iff _ exceedsSingle_iff

/-- The cases of narrowing, in the order in which they are asked for. -/
theorem narrow_eq (d : Binary64) :
    d.narrow = if d.ExceedsSingle then .error (.floatOutOfRange d "f32")
      else if d.FitsSingle then .ok d.convert else .error (.lossyNarrowing d "f32") :=
  if_congr exceedsSingle_iff rfl (if_congr fitsSingle_iff rfl rfl)

theorem narrow_eq_ok_iff {s : Binary32} : d.narrow = .ok s ↔ d.FitsSingle ∧ s = d.convert := by
  rw [narrow_eq]
  split_ifs with beyond fits
  · simp [mt FitsSingle.not_exceedsSingle (not_not_intro beyond)]
  · simp [fits, eq_comm]
  · simp [fits]

/-- What was narrowed is widened to the same number bit for bit. -/
theorem convert_of_narrow {s : Binary32} (number : d.isNaN = false) (narrowed : d.narrow = .ok s) :
    (s.convert : Binary64) = d := by
  obtain ⟨fits, rfl⟩ := narrow_eq_ok_iff.1 narrowed
  have represented := fitsSingle_iff.2 fits
  rw [number, Bool.false_or] at represented
  exact Binary.convert_convert represented

/-- What narrows from a NaN is one. -/
theorem isNaN_of_narrow {s : Binary32} (nan : d.isNaN = true) (narrowed : d.narrow = .ok s) :
    s.isNaN = true := by
  rw [(narrow_eq_ok_iff.1 narrowed).2, Binary.convert_of_isNaN nan]
  exact Binary.isNaN_nan

end Binary64

/-- What was widened fits where it came from. -/
theorem Binary32.fitsSingle_convert {s : Binary32} (number : s.isNaN = false) :
    Binary64.FitsSingle s.convert := by
  obtain nan | unbounded | finite := s.class_cases
  · rw [nan] at number
    cases number
  · rw [Binary.convert_of_isInfinite unbounded]
    exact .inr (.inl (Binary.isInfinite_infinite _))
  · obtain ⟨finite', same⟩ :=
      Binary.value_convert_of_extends FloatFormat.double_extends_single finite
    exact .inr (.inr ⟨finite', s, finite, same.symm⟩)

/-- What becomes of a host float where one of 32 bits is wanted. It is narrowed if that loses nothing,
and otherwise refused as out of range or as one that would be rounded. -/
structure NarrowsExactly (d : Binary64) (narrowed : Outcome ConversionError Binary32) : Prop where
  accepted : (∃ s, narrowed = .ok s) ↔ d.FitsSingle
  widened s : narrowed = .ok s → d.isNaN = false → (s.convert : Binary64) = d
  nan s : narrowed = .ok s → d.isNaN = true → s.isNaN = true
  outOfRange : narrowed = .error (.floatOutOfRange d "f32") ↔ d.ExceedsSingle
  rounded : narrowed = .error (.lossyNarrowing d "f32") ↔ ¬d.FitsSingle ∧ ¬d.ExceedsSingle

/-- Narrowing is exact, or refused for one of two reasons. -/
theorem Binary64.narrowsExactly (d : Binary64) : NarrowsExactly d (.ofExcept d.narrow) := by
  refine ⟨?_, fun s narrowed number => ?_, fun s narrowed nan => ?_, ?_, ?_⟩
  · simp [narrow_eq_ok_iff]
  · exact convert_of_narrow number (Outcome.ofExcept_eq_ok_iff.1 narrowed)
  · exact isNaN_of_narrow nan (Outcome.ofExcept_eq_ok_iff.1 narrowed)
  · rw [Outcome.ofExcept_eq_error_iff, narrow_eq]
    split_ifs with beyond <;> simp [beyond]
  · rw [Outcome.ofExcept_eq_error_iff, narrow_eq]
    split_ifs with beyond fits
    · simp [beyond]
    · simp [fits]
    · simp [beyond, fits]

/-- Host floats become floats of 32 bits without loss, and what is not a NaN comes back from the host bit
for bit. -/
theorem NativeType.narrowing_exact (policy : NumericPolicy) (heap heap' : Heap C) :
    (∀ d, NarrowsExactly d (f32.fromHost policy heap (.float d))) ∧
      ∀ s : Binary32, s.isNaN = false →
        ∃ v, f32.toHost s heap' = .ok (v, heap') ∧ f32.fromHost policy heap v = .ok s := by
  refine ⟨fun d => d.narrowsExactly, fun s number => ⟨_, rfl, ?_⟩⟩
  rw [fromHost, Outcome.ofExcept_eq_ok_iff, Binary64.narrow_eq_ok_iff,
    Binary.convert_convert_of_extends FloatFormat.double_extends_single number]
  exact ⟨Binary32.fitsSingle_convert number, rfl⟩

open Gallery in
/-- The zero with a sign comes back. -/
theorem NativeType.narrowing_exact_zero :
    let zero : Binary32 := Binary.ofBits 0x80000000
    let t : NativeType catalog := f32
    zero.isNaN = false ∧
      ∃ v, t.toHost zero .empty = .ok (v, .empty) ∧ t.fromHost .strict .empty v = .ok zero := by
  intro zero t
  have number : zero.isNaN = false := by decide
  exact ⟨number, (narrowing_exact .strict .empty .empty).2 zero number⟩

end NativeBridge
