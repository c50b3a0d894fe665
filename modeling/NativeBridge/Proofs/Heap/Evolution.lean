import NativeBridge.Proofs.Heap.View

/-!
# Heaps over time

`Heap.Evolves a ks b` says that heap operations lead from `a` to `b` and that the allocations among
them handed out the handles `ks`, in order; `Heap.Reachable` heaps evolve from the empty one. In all
of them the free slots are distinct and vacant (`Heap.WellFormed`).

`Heap.Issued` marks the tenancies that a heap has given to some instance : those its slots have
moved past, and the current one of each slot that does not wait for reuse. An allocation issues its
own tenancy, which was not issued before, and nothing else issues any (`Heap.Evolves.issued_iff`).
So no tenancy is issued twice, and an instance that is gone stays gone (`Heap.Evolves.stale`). An
instance that stays keeps its type (`Heap.Retains`), which is the one whose identity the handle that was
issued for it carries (`Heap.Evolves.identity_of_issued`).
-/

namespace NativeBridge

variable {C : Catalog}

namespace Heap

variable {heap heap' a b c : Heap C} {h k : Handle} {ks ls : List Handle} {x y : Occupant C}

/-- The free slots are distinct and vacant. -/
structure WellFormed (heap : Heap C) : Prop where
  free_nodup : heap.free.Nodup
  free_vacant : ∀ i ∈ heap.free, heap.Vacant i

/-- The tenancy has been given to an instance. A free slot has not given out its current generation
yet; a retired slot has, and will never be free. -/
def Issued (heap : Heap C) (t : Tenancy) : Prop :=
  ∃ slot, heap.slots[t.1]? = some slot ∧
    (t.2 < slot.generation ∨ t.2 = slot.generation ∧ t.1 ∉ heap.free)

theorem wellFormed_empty : (empty : Heap C).WellFormed :=
  ⟨List.nodup_nil, by simp [empty]⟩

theorem not_issued_empty (t : Tenancy) : ¬(empty : Heap C).Issued t := by
  rintro ⟨slot, hs, -⟩
  simp [empty] at hs

/-! ## Slots one by one -/

/-- A tenancy has been issued if it is of an earlier generation than its slot, or of this one unless
the slot waits to be reused. -/
theorem issued_iff_of_slot {t : Tenancy} (slot : Slot C) (hs : heap.slots[t.1]? = some slot) :
    heap.Issued t ↔ t.2 < slot.generation ∨ t.2 = slot.generation ∧ t.1 ∉ heap.free := by
  simp [Issued, hs]

theorem issued_congr {t : Tenancy} (hs : heap.slots[t.1]? = heap'.slots[t.1]?)
    (hf : t.1 ∈ heap.free ↔ t.1 ∈ heap'.free) : heap.Issued t ↔ heap'.Issued t := by
  simp only [Issued, hs, hf]

/-- The slot of a live instance is not free. -/
theorem WellFormed.index_notMem_free (wf : heap.WellFormed) (live : heap.occupant? h = some x) :
    h.index ∉ heap.free := by
  intro hm
  have := (wf.free_vacant _ hm).occupant?_eq_none rfl
  rw [live] at this
  cases this

/-- A live instance has been issued its tenancy. -/
theorem WellFormed.issued_of_live (wf : heap.WellFormed) (live : heap.occupant? h = some x) :
    heap.Issued h.tenancy :=
  ⟨_, occupant?_eq_some_iff.1 live, Or.inr ⟨rfl, wf.index_notMem_free live⟩⟩

/-! ## Changes in place and reclamations -/

/-- The heap differs by one live instance, changed in place or reclaimed. -/
def Touches (a b : Heap C) : Prop :=
  ∃ h x, a.occupant? h = some x ∧ ((∃ y, b = a.put h y) ∨ b = a.reclaim h)

theorem touches_of_update {o : C.Obj} {change : C.Instance o → C.Instance o} {v : C.Instance o}
    (hu : a.update o change h = .ok (v, b)) : Touches a b := by
  obtain ⟨x, live, -, rfl⟩ := update_eq_ok_iff.1 hu
  exact ⟨h, x, live, Or.inl ⟨_, rfl⟩⟩

theorem touches_of_share {n : Nat} (hs : a.share h = .ok (n, b)) : Touches a b := by
  obtain ⟨x, live, -, -, rfl⟩ := share_eq_ok_iff.1 hs
  exact ⟨h, x, live, Or.inl ⟨_, rfl⟩⟩

theorem touches_of_release {last : Bool} (hr : a.release h = .ok (last, b)) : Touches a b := by
  obtain ⟨x, live, ⟨-, -, rfl⟩ | ⟨-, -, rfl⟩⟩ := release_eq_ok_iff.1 hr
  · exact ⟨h, x, live, Or.inl ⟨_, rfl⟩⟩
  · exact ⟨h, x, live, Or.inr rfl⟩

theorem WellFormed.put (wf : heap.WellFormed) (live : heap.occupant? h = some x)
    (y : Occupant C) : (heap.put h y).WellFormed := by
  refine ⟨wf.free_nodup, fun i hi => ?_⟩
  have hne : h.index ≠ i := fun e => wf.index_notMem_free live (e ▸ hi)
  obtain ⟨generation, hs⟩ := wf.free_vacant i hi
  exact ⟨generation, by simpa [Heap.put, hne] using hs⟩

/-- A slot that becomes free is vacant from then on. -/
theorem WellFormed.reclaim (wf : heap.WellFormed) (live : heap.occupant? h = some x) :
    (heap.reclaim h).WellFormed := by
  have hf := wf.index_notMem_free live
  have hsize := index_lt_size live
  have others : ∀ generation free count, ∀ i ∈ heap.free,
      (⟨heap.slots.setIfInBounds h.index ⟨generation, none⟩, free, count⟩ : Heap C).Vacant i := by
    intro generation free count i hi
    have hne : h.index ≠ i := fun e => hf (e ▸ hi)
    obtain ⟨g, hs⟩ := wf.free_vacant i hi
    exact ⟨g, by simpa [hne] using hs⟩
  unfold Heap.reclaim
  split_ifs
  · refine ⟨List.nodup_cons.2 ⟨hf, wf.free_nodup⟩, fun i hi => ?_⟩
    rcases List.mem_cons.1 hi with rfl | hi
    · exact ⟨h.generation + 1, by simp [hsize]⟩
    · exact others _ _ _ i hi
  · exact ⟨wf.free_nodup, others _ _ _⟩

/-- Replacing an occupant issues nothing. -/
theorem issued_put (live : heap.occupant? h = some x) (y : Occupant C) (t : Tenancy) :
    (heap.put h y).Issued t ↔ heap.Issued t := by
  have hs := occupant?_eq_some_iff.1 live
  by_cases ht : t.1 = h.index
  · rw [issued_iff_of_slot ⟨h.generation, some y⟩ (by simp [put, ht, index_lt_size live]),
      issued_iff_of_slot ⟨h.generation, some x⟩ (by rw [ht, hs])]
    rfl
  · have hne : h.index ≠ t.1 := fun e => ht e.symm
    exact issued_congr (by simp [put, hne]) Iff.rfl

/-- Reclaiming moves the slot past a tenancy that had been issued anyway. -/
theorem WellFormed.issued_reclaim (wf : heap.WellFormed) (live : heap.occupant? h = some x)
    (t : Tenancy) : (heap.reclaim h).Issued t ↔ heap.Issued t := by
  have hs := occupant?_eq_some_iff.1 live
  have hsize := index_lt_size live
  have hf := wf.index_notMem_free live
  unfold Heap.reclaim
  split_ifs
  · by_cases ht : t.1 = h.index
    · rw [issued_iff_of_slot ⟨h.generation + 1, none⟩ (by simp [ht, hsize]),
        issued_iff_of_slot ⟨h.generation, some x⟩ (by rw [ht, hs])]
      simp only [ht, List.mem_cons_self, not_true, and_false, or_false, hf, not_false_eq_true,
        and_true]
      omega
    · have hne : h.index ≠ t.1 := fun e => ht e.symm
      exact issued_congr (by simp [hne]) (by simp [ht])
  · by_cases ht : t.1 = h.index
    · rw [issued_iff_of_slot ⟨h.generation, none⟩ (by simp [ht, hsize]),
        issued_iff_of_slot ⟨h.generation, some x⟩ (by rw [ht, hs])]
    · have hne : h.index ≠ t.1 := fun e => ht e.symm
      exact issued_congr (by simp [hne]) Iff.rfl

/-- Sharing, changing and releasing leave a heap well formed. -/
theorem Touches.wellFormed (touches : Touches a b) (wf : a.WellFormed) : b.WellFormed := by
  obtain ⟨h, x, live, ⟨y, rfl⟩ | rfl⟩ := touches
  · exact wf.put live y
  · exact wf.reclaim live

/-- Sharing, changing and releasing issue nothing, and take nothing back. -/
theorem Touches.issued_iff (touches : Touches a b) (wf : a.WellFormed) (t : Tenancy) :
    b.Issued t ↔ a.Issued t := by
  obtain ⟨h, x, live, ⟨y, rfl⟩ | rfl⟩ := touches
  · exact issued_put live y t
  · exact wf.issued_reclaim live t

/-- No instance comes to life by a change of another. -/
theorem Touches.occupant?_eq_none (touches : Touches a b) (stale : a.occupant? k = none) :
    b.occupant? k = none := by
  obtain ⟨h, x, live, change⟩ := touches
  have hne : k.tenancy ≠ h.tenancy := by
    intro e
    rw [occupant?_congr a e, live] at stale
    cases stale
  obtain ⟨y, rfl⟩ | rfl := change
  · rw [occupant?_put live, if_neg hne, stale]
  · rw [occupant?_reclaim live, if_neg hne, stale]

/-! ## Types -/

/-- What lives afterwards has lived before, as an instance of the same type. -/
def Retains (a b : Heap C) : Prop :=
  ∀ k y, b.occupant? k = some y → ∃ x, a.occupant? k = some x ∧ x.type = y.type

theorem retains_put (live : a.occupant? h = some x) (same : x.type = y.type) :
    a.Retains (a.put h y) := by
  intro k z after
  rw [occupant?_put live] at after
  split_ifs at after with here
  · cases after
    exact ⟨x, (occupant?_congr a here).trans live, same⟩
  · exact ⟨z, after, rfl⟩

theorem retains_reclaim (live : a.occupant? h = some x) : a.Retains (a.reclaim h) := by
  intro k z after
  rw [occupant?_reclaim live] at after
  split_ifs at after
  exact ⟨z, after, rfl⟩

theorem retains_of_update {o : C.Obj} {change : C.Instance o → C.Instance o} {v : C.Instance o}
    (update : a.update o change h = .ok (v, b)) : a.Retains b := by
  obtain ⟨x, live, typed, rfl⟩ := update_eq_ok_iff.1 update
  exact retains_put live (congrArg Occupant.type (Occupant.as?_eq_some_iff.1 typed) :)

theorem retains_of_share {n : Nat} (share : a.share h = .ok (n, b)) : a.Retains b := by
  obtain ⟨x, live, -, -, rfl⟩ := share_eq_ok_iff.1 share
  exact retains_put live rfl

theorem retains_of_release {last : Bool} (release : a.release h = .ok (last, b)) :
    a.Retains b := by
  obtain ⟨x, live, ⟨-, -, rfl⟩ | ⟨-, -, rfl⟩⟩ := release_eq_ok_iff.1 release
  · exact retains_put live rfl
  · exact retains_reclaim live

/-- A handle with the identity of the instance that was behind it has that of the one that is. -/
theorem Retains.identity (retains : a.Retains b)
    (before : ∀ x, a.occupant? k = some x → k.identity = C.identity x.type)
    (live : b.occupant? k = some y) : k.identity = C.identity y.type := by
  obtain ⟨x, lived, same⟩ := retains k y live
  rw [← same]
  exact before x lived

/-! ## Allocations -/

/-- A slot that is taken is not free any more, and a new one never was. -/
theorem WellFormed.allocate (wf : heap.WellFormed) {o : C.Obj} {v : C.Instance o}
    (ha : heap.allocate o v = .ok (k, heap')) : heap'.WellFormed := by
  obtain ⟨free, hf, -, rfl⟩ | ⟨-, -, rfl⟩ := allocate_eq_ok ha
  · have hnodup := List.nodup_cons.1 (hf ▸ wf.free_nodup)
    refine ⟨hnodup.2, fun i hi => ?_⟩
    have hne : k.index ≠ i := fun e => hnodup.1 (e ▸ hi)
    obtain ⟨generation, hs⟩ := wf.free_vacant i (by simp [hf, show i ∈ free from hi])
    exact ⟨generation, by simpa [hne] using hs⟩
  · exact ⟨List.nodup_nil, by simp⟩

/-- An allocation issues its tenancy and no other. -/
theorem WellFormed.issued_allocate (wf : heap.WellFormed) {o : C.Obj} {v : C.Instance o}
    (ha : heap.allocate o v = .ok (k, heap')) (t : Tenancy) :
    heap'.Issued t ↔ heap.Issued t ∨ t = k.tenancy := by
  obtain ⟨free, hf, hk, rfl⟩ | ⟨hf, rfl, rfl⟩ := allocate_eq_ok ha
  · have hnodup := List.nodup_cons.1 (hf ▸ wf.free_nodup)
    have hs := (wf.free_vacant k.index (by simp [hf])).slot_eq
    have hg : heap.generationAt k.index = k.generation := by rw [hk]
    by_cases ht : t.1 = k.index
    · rw [issued_iff_of_slot ⟨k.generation, some ⟨o, v, 1, false⟩⟩
          (by simp [ht, (Array.getElem?_eq_some_iff.1 hs).1]),
        issued_iff_of_slot _ (by rw [ht, hs])]
      simp [ht, hf, hnodup.1, hg, Handle.tenancy, Prod.ext_iff]
    · have hne : k.index ≠ t.1 := fun e => ht e.symm
      have : t ≠ k.tenancy := fun e => ht (congrArg Prod.fst e)
      simp only [this, or_false]
      exact issued_congr (by simp [hne]) (by simp [hf, ht])
  · by_cases ht : t.1 = heap.slots.size
    · rw [issued_iff_of_slot ⟨0, some ⟨o, v, 1, false⟩⟩ (by simp [ht])]
      have : ¬heap.Issued t := by
        rintro ⟨slot, hs, -⟩
        simp [ht] at hs
      simp [this, Handle.tenancy, Prod.ext_iff, ht]
    · have : t ≠ Handle.tenancy ⟨heap.slots.size, 0, C.identity o⟩ :=
        fun e => ht (congrArg Prod.fst e)
      simp only [this, or_false]
      exact issued_congr (by simp [Array.getElem?_push, ht]) (by simp [hf])

/-- The tenancy of an allocation is a new one. -/
theorem WellFormed.not_issued_of_allocate (wf : heap.WellFormed) {o : C.Obj} {v : C.Instance o}
    (ha : heap.allocate o v = .ok (k, heap')) : ¬heap.Issued k.tenancy := by
  obtain ⟨free, hf, hk, -⟩ | ⟨-, rfl, -⟩ := allocate_eq_ok ha
  · have hs := (wf.free_vacant k.index (by simp [hf])).slot_eq
    have hg : heap.generationAt k.index = k.generation := by rw [hk]
    rw [issued_iff_of_slot (t := k.tenancy) _ hs]
    simp [Handle.tenancy, hg, hf]
  · rintro ⟨slot, hs, -⟩
    simp [Handle.tenancy] at hs

/-! ## Runs -/

/-- Heap operations lead from the first heap to the last and hand out the given handles. -/
inductive Evolves : Heap C → List Handle → Heap C → Prop
  | refl (heap : Heap C) : Evolves heap [] heap
  | allocate {a b c : Heap C} {ks : List Handle} {o : C.Obj} {v : C.Instance o} {k : Handle} :
      Evolves a ks b → b.allocate o v = .ok (k, c) → Evolves a (ks ++ [k]) c
  | update {a b c : Heap C} {ks : List Handle} {o : C.Obj} {change : C.Instance o → C.Instance o}
      {h : Handle} {v : C.Instance o} :
      Evolves a ks b → b.update o change h = .ok (v, c) → Evolves a ks c
  | share {a b c : Heap C} {ks : List Handle} {h : Handle} {n : Nat} :
      Evolves a ks b → b.share h = .ok (n, c) → Evolves a ks c
  | release {a b c : Heap C} {ks : List Handle} {h : Handle} {last : Bool} :
      Evolves a ks b → b.release h = .ok (last, c) → Evolves a ks c

/-- The heaps that operations make from the empty one. -/
def Reachable (heap : Heap C) : Prop := ∃ ks, Evolves .empty ks heap

namespace Evolves

/-- Handles are issued in the order of the evolutions. -/
theorem trans (first : Evolves a ks b) (second : Evolves b ls c) : Evolves a (ks ++ ls) c := by
  induction second with
  | refl => simpa using first
  | allocate _ ha ih =>
    rw [← List.append_assoc]
    exact .allocate ih ha
  | update _ hu ih => exact .update ih hu
  | share _ hs ih => exact .share ih hs
  | release _ hr ih => exact .release ih hr

/-- Whatever happens to a heap, it stays well formed. By induction on what happens. -/
theorem wellFormed (evolves : Evolves a ks b) (wf : a.WellFormed) : b.WellFormed := by
  induction evolves with
  | refl => exact wf
  | allocate _ ha ih => exact ih.allocate ha
  | update _ hu ih => exact (touches_of_update hu).wellFormed ih
  | share _ hs ih => exact (touches_of_share hs).wellFormed ih
  | release _ hr ih => exact (touches_of_release hr).wellFormed ih

/-- Issued are the tenancies that were before, and those of the handles handed out since. -/
theorem issued_iff (evolves : Evolves a ks b) (wf : a.WellFormed) (t : Tenancy) :
    b.Issued t ↔ a.Issued t ∨ t ∈ ks.map Handle.tenancy := by
  induction evolves with
  | refl => simp
  | allocate before ha ih =>
    rw [(before.wellFormed wf).issued_allocate ha, ih]
    simp [or_assoc, eq_comm]
  | update before hu ih =>
    exact ((touches_of_update hu).issued_iff (before.wellFormed wf) t).trans ih
  | share before hs ih =>
    exact ((touches_of_share hs).issued_iff (before.wellFormed wf) t).trans ih
  | release before hr ih =>
    exact ((touches_of_release hr).issued_iff (before.wellFormed wf) t).trans ih

/-- The handles issued have tenancies that were not issued before. -/
theorem fresh (evolves : Evolves a ks b) (wf : a.WellFormed) (issued : k ∈ ks) :
    ¬a.Issued k.tenancy := by
  induction evolves with
  | refl => cases issued
  | allocate before ha ih =>
    rcases List.mem_append.1 issued with issued | issued
    · exact ih issued
    · rw [List.mem_singleton.1 issued]
      intro earlier
      refine (before.wellFormed wf).not_issued_of_allocate ha ?_
      exact (before.issued_iff wf _).2 (Or.inl earlier)
  | update _ _ ih | share _ _ ih | release _ _ ih => exact ih issued

/-- No tenancy is issued twice. -/
theorem nodup (evolves : Evolves a ks b) (wf : a.WellFormed) :
    (ks.map Handle.tenancy).Nodup := by
  induction evolves with
  | refl => exact List.nodup_nil
  | allocate before ha ih =>
    have new := (before.wellFormed wf).not_issued_of_allocate ha
    rw [before.issued_iff wf] at new
    rw [List.map_append, List.map_singleton, List.nodup_append]
    refine ⟨ih, List.pairwise_singleton .., fun t mem u last same => ?_⟩
    exact new (Or.inr (List.mem_singleton.1 last ▸ same ▸ mem))
  | update _ _ ih | share _ _ ih | release _ _ ih => exact ih

/-- An issued tenancy without an instance never has one again. -/
theorem stale (evolves : Evolves a ks b) (wf : a.WellFormed) (issued : a.Issued h.tenancy)
    (stale : a.occupant? h = none) : b.occupant? h = none := by
  induction evolves with
  | refl => exact stale
  | allocate before ha ih =>
    have wf' := before.wellFormed wf
    rw [occupant?_allocate wf'.free_vacant ha, if_neg]
    · exact ih
    · intro e
      refine wf'.not_issued_of_allocate ha (e ▸ ?_)
      exact (before.issued_iff wf _).2 (Or.inl issued)
  | update _ hu ih => exact (touches_of_update hu).occupant?_eq_none ih
  | share _ hs ih => exact (touches_of_share hs).occupant?_eq_none ih
  | release _ hr ih => exact (touches_of_release hr).occupant?_eq_none ih

/-- By induction on what has been done : an allocation issues a handle with the identity of its type
and touches no tenancy that was issued before, and the rest retains what it finds. -/
theorem identity_of_issued (evolves : Evolves a ks b) (wf : a.WellFormed) (issued : k ∈ ks)
    (live : b.occupant? k = some x) : k.identity = C.identity x.type := by
  induction evolves generalizing x with
  | refl => cases issued
  | allocate before allocate ih =>
    have wf' := before.wellFormed wf
    rw [occupant?_allocate wf'.free_vacant allocate] at live
    split_ifs at live with same
    · cases live
      rcases List.mem_append.1 issued with earlier | last
      · -- its tenancy would have been issued twice
        refine absurd ((before.issued_iff wf _).2 (Or.inr (List.mem_map_of_mem earlier))) ?_
        rw [same]
        exact wf'.not_issued_of_allocate allocate
      · rw [List.mem_singleton.1 last]
        exact identity_of_allocate allocate
    · rcases List.mem_append.1 issued with earlier | last
      · exact ih earlier live
      · exact absurd (congrArg Handle.tenancy (List.mem_singleton.1 last)) same
  | update _ update ih => exact (retains_of_update update).identity (fun _ => ih issued) live
  | share _ share ih => exact (retains_of_share share).identity (fun _ => ih issued) live
  | release _ release ih => exact (retains_of_release release).identity (fun _ => ih issued) live

end Evolves

theorem Reachable.wellFormed (reachable : heap.Reachable) : heap.WellFormed :=
  let ⟨_, evolves⟩ := reachable
  evolves.wellFormed wellFormed_empty

end Heap

end NativeBridge
