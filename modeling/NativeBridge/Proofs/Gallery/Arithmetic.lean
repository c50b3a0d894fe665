import Mathlib.Data.Nat.Fib.Basic
import Mathlib.Tactic.NormNum.NatFib
import NativeBridge.Gallery.Arithmetic
import NativeBridge.Proofs.Integer

/-!
# Fibonacci numbers of 64 bits

The native function on Fibonacci numbers keeps two neighbours of the sequence (`Neighbours`). One
checked addition leads to the next two, or the next number exceeds 64 bits (`Neighbours.checkedAdd`).
Since the sequence grows, a number that fits is reached through numbers that fit, and an overflow on
the way means that the number asked for does not fit either (`Neighbours.fibonacciFrom`).

`tracedFibonacci` is the function with a record of what it adds. It adds neighbours of the sequence in
their order and stops at the first sum that is no 64-bit integer, which is the 92nd
(`Neighbours.additions`). `fibonacci_exact` puts both together.
-/

namespace NativeBridge.Gallery

/-! ## Additions on the way -/

/-- `fibonacciFrom`, with the pairs that it adds in front of its result. -/
def tracedFrom (previous current : Fixed .i64) :
    Nat → List (Fixed .i64 × Fixed .i64) × Except ArithmeticError (Fixed .i64)
  | 0 => ([], .ok current)
  | n + 1 =>
    match checkedAdd "fibonacci" previous current with
    | .ok next =>
      let (additions, result) := tracedFrom current next n
      ((previous, current) :: additions, result)
    | .error e => ([(previous, current)], .error e)

/-- `fibonacci`, with the pairs that it adds in front of its result. -/
def tracedFibonacci (n : Fixed .i64) :
    List (Fixed .i64 × Fixed .i64) × Except ArithmeticError (Fixed .i64) :=
  if n.val < 0 then ([], .error (.negativeInput n.val))
  else if n.val = 0 then ([], .ok (.wrap .i64 0))
  else tracedFrom (.wrap .i64 0) (.wrap .i64 1) (n.val - 1).toNat

/-- Keeping a trace does not change the result. By induction on the number of steps. -/
theorem tracedFrom_snd (previous current : Fixed .i64) (n : Nat) :
    (tracedFrom previous current n).2 = fibonacciFrom previous current n := by
  induction n generalizing previous current with
  | zero => rfl
  | succ n ih =>
    unfold tracedFrom fibonacciFrom
    cases checkedAdd "fibonacci" previous current with
    | ok next => exact ih current next
    | error e => rfl

theorem tracedFibonacci_snd (n : Fixed .i64) : (tracedFibonacci n).2 = fibonacci n := by
  unfold tracedFibonacci fibonacci
  split_ifs
  · rfl
  · rfl
  · exact tracedFrom_snd ..

/-! ## Neighbours of the sequence -/

/-- The Fibonacci numbers of up to 64 bits are those up to the 92nd. -/
theorem fib_le_max_iff {n : Nat} : (Nat.fib n : Int) ≤ IntType.i64.max ↔ n ≤ 92 := by
  have greatest : IntType.i64.max = 2 ^ 63 - 1 := by decide
  have last : (Nat.fib 92 : Int) ≤ IntType.i64.max := by norm_num [greatest]
  have first : IntType.i64.max < (Nat.fib 93 : Int) := by norm_num [greatest]
  refine ⟨fun fits => ?_, fun small => ?_⟩
  · by_contra large
    have above : Nat.fib 93 ≤ Nat.fib n := Nat.fib_mono (by omega)
    omega
  · have below : Nat.fib n ≤ Nat.fib 92 := Nat.fib_mono small
    omega

/-- The Fibonacci number of an index, and the next one. -/
structure Neighbours (i : Nat) (previous current : Fixed .i64) : Prop where
  previous : previous.val = Nat.fib i
  current : current.val = Nat.fib (i + 1)

namespace Neighbours

variable {i : Nat} {previous current : Fixed .i64}

theorem start : Neighbours 0 (.wrap .i64 0) (.wrap .i64 1) := ⟨by decide, by decide⟩

/-- Neighbours that fit have an index of at most 91. -/
theorem index_le (at_i : Neighbours i previous current) : i ≤ 91 := by
  have fits : (Nat.fib (i + 1) : Int) ≤ IntType.i64.max := at_i.current ▸ current.fits.2
  have small := fib_le_max_iff.1 fits
  omega

/-- An addition leads to the next neighbours, unless the next number does not fit. -/
theorem checkedAdd (at_i : Neighbours i previous current) :
    ((Nat.fib (i + 2) : Int) ≤ IntType.i64.max ∧
      ∃ next, checkedAdd "fibonacci" previous current = .ok next ∧ Neighbours (i + 1) current next) ∨
      IntType.i64.max < Nat.fib (i + 2) ∧
        checkedAdd "fibonacci" previous current = .error (.overflow "fibonacci") := by
  have sum : previous.val + current.val = Nat.fib (i + 2) := by
    rw [at_i.previous, at_i.current, Nat.fib_add_two]
    push_cast
    rfl
  unfold Gallery.checkedAdd
  cases added : Fixed.fit? .i64 (previous.val + current.val) with
  | some next =>
    have value := (Fixed.fit?_eq_some_iff.1 added).trans sum
    exact .inl ⟨value ▸ next.fits.2, next, rfl, at_i.current, value⟩
  | none =>
    refine .inr ⟨?_, rfl⟩
    obtain low | high := Fixed.fit?_eq_none_iff.1 added
    · have least : IntType.i64.min ≤ 0 := by decide
      omega
    · rwa [← sum]

/-- What is reached from neighbours is the number asked for, or that number does not fit. By induction
on the places that are left. -/
theorem fibonacciFrom (at_i : Neighbours i previous current) (n : Nat) :
    (∃ r, fibonacciFrom previous current n = .ok r ∧ r.val = Nat.fib (i + 1 + n)) ∨
      IntType.i64.max < Nat.fib (i + 1 + n) ∧
        fibonacciFrom previous current n = .error (.overflow "fibonacci") := by
  induction n generalizing i previous current with
  | zero => exact .inl ⟨current, rfl, at_i.current⟩
  | succ n ih =>
    unfold Gallery.fibonacciFrom
    obtain ⟨-, next, added, at_next⟩ | ⟨large, overflow⟩ := at_i.checkedAdd
    · rw [added, ← Nat.add_assoc, Nat.add_right_comm]
      exact ih at_next
    · have grows : Nat.fib (i + 2) ≤ Nat.fib (i + 1 + (n + 1)) := Nat.fib_mono (by omega)
      rw [overflow]
      exact .inr ⟨by omega, rfl⟩

/-- The additions from neighbours on are those of the sequence, up to the first that overflows. By
induction on the places that are left. -/
theorem additions (at_i : Neighbours i previous current) (n : Nat) :
    (tracedFrom previous current n).1.map (fun p => (p.1.val, p.2.val)) =
      (List.range' i (min n (92 - i))).map fun j => ((Nat.fib j : Int), (Nat.fib (j + 1) : Int)) := by
  induction n generalizing i previous current with
  | zero => simp [tracedFrom]
  | succ n ih =>
    have bound := at_i.index_le
    have first : min (n + 1) (92 - i) = min n (92 - (i + 1)) + 1 := by omega
    rw [first, List.range'_succ, List.map_cons, ← at_i.previous, ← at_i.current]
    unfold tracedFrom
    obtain ⟨-, next, added, at_next⟩ | ⟨large, overflow⟩ := at_i.checkedAdd
    · rw [added]
      exact congrArg (_ :: ·) (ih at_next)
    · have last : 92 - (i + 1) = 0 := by
        have beyond := mt fib_le_max_iff.2 (Int.not_le.2 large)
        omega
      rw [overflow, last, Nat.min_zero]
      rfl

end Neighbours

/-! ## The function -/

theorem fibonacci_of_neg {n : Fixed .i64} (negative : n.val < 0) :
    fibonacci n = .error (.negativeInput n.val) := if_pos negative

/-- A number that is not negative has its Fibonacci number, unless that does not fit. -/
theorem fibonacci_of_nonneg {n : Fixed .i64} (nonneg : 0 ≤ n.val) :
    (∃ r, fibonacci n = .ok r ∧ r.val = Nat.fib n.val.toNat) ∨
      IntType.i64.max < Nat.fib n.val.toNat ∧ fibonacci n = .error (.overflow "fibonacci") := by
  unfold fibonacci
  rw [if_neg (Int.not_lt.2 nonneg)]
  split_ifs with zero
  · exact .inl ⟨_, rfl, by rw [zero]; decide⟩
  · have place : n.val.toNat = 0 + 1 + (n.val - 1).toNat := by omega
    rw [place]
    exact Neighbours.start.fibonacciFrom _

/-- The additions that are made are those of neighbours, from the first on, and 92 at most. -/
theorem additions_fibonacci (n : Fixed .i64) :
    (tracedFibonacci n).1.map (fun p => (p.1.val, p.2.val)) =
      (List.range (min (n.val.toNat - 1) 92)).map
        fun i => ((Nat.fib i : Int), (Nat.fib (i + 1) : Int)) := by
  unfold tracedFibonacci
  split_ifs with negative zero
  · have none : n.val.toNat - 1 = 0 := by omega
    simp [none]
  · simp [zero]
  · have places : (n.val - 1).toNat = n.val.toNat - 1 := by omega
    rw [Neighbours.start.additions, places, List.range_eq_range']

/-- The function gives the Fibonacci number of its argument if there is one and it fits, and says what
is missing otherwise. The sums on the way are numbers of the sequence too, and there are at most 92 of
them. -/
theorem fibonacci_exact (n : Fixed .i64) :
    (∀ r, fibonacci n = .ok r → r.val = Nat.fib n.val.toNat) ∧
      ((∃ r, fibonacci n = .ok r) ↔
        0 ≤ n.val ∧ (Nat.fib n.val.toNat : Int) ≤ IntType.i64.max) ∧
      (fibonacci n = .error (.negativeInput n.val) ↔ n.val < 0) ∧
      (fibonacci n = .error (.overflow "fibonacci") ↔
        0 ≤ n.val ∧ IntType.i64.max < Nat.fib n.val.toNat) ∧
      (tracedFibonacci n).2 = fibonacci n ∧
      (tracedFibonacci n).1.map (fun p => (p.1.val, p.2.val)) =
        (List.range (min (n.val.toNat - 1) 92)).map
          (fun i => ((Nat.fib i : Int), (Nat.fib (i + 1) : Int))) ∧
      (tracedFibonacci n).1.length ≤ 92 := by
  have additions := additions_fibonacci n
  have length : (tracedFibonacci n).1.length ≤ 92 := by
    have same := congrArg List.length additions
    rw [List.length_map, List.length_map, List.length_range] at same
    omega
  obtain negative | nonneg := lt_or_ge n.val 0
  · have refused := fibonacci_of_neg negative
    refine ⟨?_, ?_, ?_, ?_, tracedFibonacci_snd n, additions, length⟩ <;>
      simp [refused, negative, not_le.2 negative]
  · obtain ⟨r, made, value⟩ | ⟨large, overflow⟩ := fibonacci_of_nonneg nonneg
    · have fits := value ▸ r.fits.2
      refine ⟨?_, ?_, ?_, ?_, tracedFibonacci_snd n, additions, length⟩ <;>
        simp [made, value, nonneg, fits]
    · refine ⟨?_, ?_, ?_, ?_, tracedFibonacci_snd n, additions, length⟩ <;>
        simp [overflow, nonneg, large]

end NativeBridge.Gallery
