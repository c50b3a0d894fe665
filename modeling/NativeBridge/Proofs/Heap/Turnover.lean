import Mathlib.Data.List.Infix
import Mathlib.Order.Bounds.Defs
import NativeBridge.Proofs.Heap.Balance

/-!
# Slots over a run

How many slots a heap has, and in which order it issues the generations of a slot, is decided by the
whole of its past. `Heap.run_turnover` : if a run on the empty heap gives up no slot, there are as many
slots as there have been instances at one time, at the most, and whatever a run does, the handles issued
for a slot have the generations 0, 1, 2 and so on.

For the first, an operation adds a slot only if all are occupied, and then for one instance
(`Heap.WellFormed.grows_of_effect`). So the number of slots is the larger of what it was before and
the number of instances now (`Heap.Complete.size_of_effect`), and along a run that makes a maximum. For
the second, the tenancies that a heap has issued are known (`Heap.Evolves.issued_iff`), and those of one
slot are the generations below some bound (`Heap.Issued.of_le`). A new tenancy was not among them and
comes to be, so its generation is the bound.
-/

namespace NativeBridge

variable {C : Catalog}

/-- The handles that have been issued, in order. -/
def HeapLog.issued (log : HeapLog C) : List Handle := log.filterMap fun e => e.1.issued? e.2

/-- The generations of the handles for one slot, in order. -/
def Handle.generationsAt (i : Nat) (ks : List Handle) : List Nat :=
  (ks.filter (·.index = i)).map Handle.generation

/-- The generations of a slot are those of the tenancies issued for it. -/
theorem Handle.mem_generationsAt {i generation : Nat} {ks : List Handle} :
    generation ∈ generationsAt i ks ↔ (i, generation) ∈ ks.map Handle.tenancy := by
  simp [generationsAt, tenancy, and_assoc]

namespace Heap

variable {heap heap' a b : Heap C} {op : HeapOperation C} {ops : List (HeapOperation C)}
  {issued : Option Handle} {ks : List Handle} {h k : Handle} {x : Occupant C}

/-! ## Generations -/

theorem Performs.evolves (performs : heap.Performs op issued heap') :
    Evolves heap issued.toList heap' := by
  cases performs with
  | idle => exact .refl heap
  | allocate done => exact .allocate (.refl heap) done
  | overwrite done => exact .update (.refl heap) done
  | share done => exact .share (.refl heap) done
  | release done => exact .release (.refl heap) done

theorem log_concat (heap : Heap C) (ops : List (HeapOperation C)) (op : HeapOperation C) :
    heap.log (ops ++ [op]) = heap.log ops ++ [⟨op, ((heap.run ops).perform op).1⟩] := by
  induction ops generalizing heap with
  | nil => rfl
  | cons first ops ih =>
    rw [List.cons_append, log, ih]
    rfl

/-- One operation more issues one handle more, or none. -/
theorem issued_log_concat (heap : Heap C) (ops : List (HeapOperation C)) (op : HeapOperation C) :
    (heap.log (ops ++ [op])).issued =
      (heap.log ops).issued ++ (op.issued? ((heap.run ops).perform op).1).toList := by
  rw [log_concat, HeapLog.issued, List.filterMap_append]
  cases issued : op.issued? ((heap.run ops).perform op).1 <;> simp [HeapLog.issued, issued]

/-- A run lets the heap evolve, by the handles that its log has. -/
theorem evolves_run (heap : Heap C) (ops : List (HeapOperation C)) :
    Evolves heap (heap.log ops).issued (heap.run ops) := by
  induction ops using List.reverseRecOn with
  | nil => exact .refl heap
  | append_singleton ops op ih =>
    rw [issued_log_concat, run_concat]
    exact ih.trans (performs _ op).evolves

/-- A slot has issued the generations before every one that it has issued. -/
theorem Issued.of_le {i g g' : Nat} (issued : heap.Issued (i, g)) (le : g' ≤ g) :
    heap.Issued (i, g') := by
  obtain ⟨slot, there, earlier | ⟨current, taken⟩⟩ := issued
  · exact ⟨slot, there, Or.inl (Nat.lt_of_le_of_lt le earlier)⟩
  · rcases Nat.lt_or_eq_of_le le with lt | same
    · exact ⟨slot, there, Or.inl (current ▸ lt)⟩
    · exact ⟨slot, there, Or.inr ⟨same.trans current, taken⟩⟩

/-- By induction on what has been done : an allocation issues the first generation of its slot that has
not been issued. -/
theorem Evolves.generationsAt_eq (evolves : Evolves a ks b) (wf : a.WellFormed)
    (new : ∀ t, ¬a.Issued t) (i : Nat) :
    Handle.generationsAt i ks = List.range (Handle.generationsAt i ks).length := by
  induction evolves with
  | refl => rfl
  | @allocate b c ks o v k before done ih =>
    have wf' := before.wellFormed wf
    by_cases here : k.index = i
    · subst here
      have bound : ∀ g, b.Issued (k.index, g) ↔ g < (Handle.generationsAt k.index ks).length := by
        intro g
        rw [before.issued_iff wf, or_iff_right (new _), ← Handle.mem_generationsAt, ih,
          List.length_range, List.mem_range]
      have first : k.generation = (Handle.generationsAt k.index ks).length := by
        have fresh := wf'.not_issued_of_allocate done
        rw [Handle.tenancy, bound] at fresh
        refine Nat.le_antisymm (Nat.le_of_not_lt fun beyond => ?_) (Nat.le_of_not_lt fresh)
        -- The bound itself would have been issued.
        have own := (wf'.issued_allocate done k.tenancy).2 (Or.inr rfl)
        rcases (wf'.issued_allocate done _).1 (own.of_le (Nat.le_of_lt beyond)) with earlier | same
        · exact Nat.lt_irrefl _ ((bound _).1 earlier)
        · exact Nat.ne_of_lt beyond (congrArg Prod.snd same)
      have more : Handle.generationsAt k.index (ks ++ [k]) =
          Handle.generationsAt k.index ks ++ [k.generation] := by
        simp [Handle.generationsAt]
      rw [more, List.length_append, List.length_singleton, List.range_succ, ← ih, first]
    · have same : Handle.generationsAt i (ks ++ [k]) = Handle.generationsAt i ks := by
        simp [Handle.generationsAt, here]
      rw [same]
      exact ih
  | update _ _ ih | share _ _ ih | release _ _ ih => exact ih

/-! ## Sizes -/

/-- A slot is added for a new instance, and only if none is free. -/
theorem WellFormed.grows_of_effect (wf : heap.WellFormed) (effect : heap.Effect op heap') :
    heap'.slots.size = heap.slots.size ∨ heap.free = [] ∧
      heap'.slots.size = heap.slots.size + 1 ∧ heap'.population = heap.population + 1 := by
  cases effect with
  | same => exact Or.inl rfl
  | allocate done =>
    have population := wf.population_allocate done
    obtain ⟨free, -, -, rfl⟩ | ⟨full, -, rfl⟩ := allocate_eq_ok done
    · exact Or.inl Array.size_setIfInBounds
    · exact Or.inr ⟨full, Array.size_push _, population⟩
  | put => exact Or.inl Array.size_setIfInBounds
  | reclaim =>
    left
    unfold Heap.reclaim
    split_ifs <;> exact Array.size_setIfInBounds

namespace Complete

/-- As long as a slot is vacant, no other is added. -/
theorem size_of_vacant (complete : heap.Complete) (wf : heap.WellFormed) {i : Nat}
    (vacant : heap.Vacant i) (effect : heap.Effect op heap') :
    heap'.slots.size = heap.slots.size := by
  rcases wf.grows_of_effect effect with same | ⟨full, -⟩
  · exact same
  · have free := complete.vacant_free i vacant
    rw [full] at free
    cases free

/-- The number of slots goes up to the number of instances, and never down. -/
theorem size_of_effect (complete : heap.Complete) (orderly : heap.Orderly)
    (effect : heap.Effect op heap') : heap'.slots.size = max heap.slots.size heap'.population := by
  rcases orderly.toWellFormed.grows_of_effect effect with same | ⟨full, size, population⟩
  · rw [Nat.max_eq_left (same ▸ population_le_size heap'), same]
  · have occupied : heap.population = heap.slots.size := by
      rw [← orderly.live_eq, ← complete.size_eq, full]
      rfl
    rw [size, population, occupied, Nat.max_eq_right (Nat.le_succ _)]

end Complete

/-- The number of slots is the greatest number of instances that there have been, by induction on the
run from its end. -/
theorem isGreatest_size (spares : (empty : Heap C).Spares ops) :
    IsGreatest {n | ∃ past, past <+: ops ∧ ((empty : Heap C).run past).population = n}
      ((empty : Heap C).run ops).slots.size := by
  induction ops using List.reverseRecOn with
  | nil =>
    refine ⟨⟨[], List.prefix_rfl, rfl⟩, ?_⟩
    rintro n ⟨past, none, rfl⟩
    rw [List.prefix_nil.1 none]
    exact Nat.le_refl 0
  | append_singleton ops op ih =>
    obtain ⟨⟨peak, earlier, reached⟩, greatest⟩ := ih (spares_concat.1 spares).1
    have orderly : ((empty : Heap C).run ops).Orderly := orderly_empty.run ops
    have complete := complete_empty.run orderly_empty (spares_concat.1 spares).1
    have size := complete.size_of_effect orderly (effect_perform _ op)
    rw [← run_concat] at size
    constructor
    · rcases Nat.le_total ((empty : Heap C).run ops).slots.size
        ((empty : Heap C).run (ops ++ [op])).population with more | fewer
      · exact ⟨_, List.prefix_rfl, by rw [size, Nat.max_eq_right more]⟩
      · exact ⟨peak, earlier.trans (List.prefix_append ops [op]),
          by rw [size, Nat.max_eq_left fewer, reached]⟩
    · rintro n ⟨past, within, rfl⟩
      rw [size]
      rcases List.prefix_concat_iff.1 within with rfl | before
      · exact Nat.le_max_right _ _
      · exact Nat.le_trans (greatest ⟨past, before, rfl⟩) (Nat.le_max_left _ _)

/-- In a run on the empty heap that gives up no slot, there are in the end as many slots as there have
been instances at one time at the most : at each point vacant slots are free, and while there is one,
no operation adds another. In any run, the handles issued for a slot have its generations in their order,
from the first on. -/
theorem run_turnover (ops : List (HeapOperation C)) :
    ((empty : Heap C).Spares ops →
      IsGreatest {n | ∃ past, past <+: ops ∧ ((empty : Heap C).run past).population = n}
        ((empty : Heap C).run ops).slots.size ∧
      (∀ past, past <+: ops → ∀ i, ((empty : Heap C).run past).Vacant i →
        i ∈ ((empty : Heap C).run past).free ∧
          ∀ op, past ++ [op] <+: ops → ((empty : Heap C).run (past ++ [op])).slots.size =
            ((empty : Heap C).run past).slots.size)) ∧
    ∀ i, ∃ n, Handle.generationsAt i ((empty : Heap C).log ops).issued = List.range n := by
  refine ⟨fun spares => ⟨isGreatest_size spares, fun past before i vacant => ?_⟩,
    fun i => ⟨_, (evolves_run .empty ops).generationsAt_eq wellFormed_empty not_issued_empty i⟩⟩
  obtain ⟨rest, rfl⟩ := before
  have orderly : ((empty : Heap C).run past).Orderly := orderly_empty.run past
  have complete := complete_empty.run orderly_empty (spares_append.1 spares).1
  refine ⟨complete.vacant_free i vacant, fun op _ => ?_⟩
  rw [run_concat]
  exact complete.size_of_vacant orderly.toWellFormed vacant (effect_perform _ op)

open Gallery in
/-- Two instances at one time, three altogether, and a slot that is used twice. -/
theorem run_turnover_reuse :
    let first : Handle := ⟨0, 0, catalog.identity .marker⟩
    let ops : List (HeapOperation catalog) :=
      [.allocate .marker ⟨⟩, .allocate .counter ⟨.wrap .i64 5⟩, .release first, .release first,
        .allocate .counter ⟨.wrap .i64 6⟩, .release ⟨1, 0, .empty⟩]
    let heap := (empty : Heap catalog).run ops
    (empty : Heap catalog).Spares ops ∧ heap.slots.size = 2 ∧
      Handle.generationsAt 0 ((empty : Heap catalog).log ops).issued = [0, 1] ∧
      IsGreatest {n | ∃ past, past <+: ops ∧ ((empty : Heap catalog).run past).population = n}
        heap.slots.size := by
  intro first ops heap
  have spares : (empty : Heap catalog).Spares ops := by decide
  exact ⟨spares, by decide, by decide, ((run_turnover ops).1 spares).1⟩

end Heap

end NativeBridge
