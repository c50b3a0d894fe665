import NativeBridge.Proofs.Heap.Evolution

/-!
# Instances overwritten in place

Putting another instance of the same type into the slot of a live one goes unnoticed almost everywhere.
Other handles find what they found before, and so do all that look for another type
(`Heap.get_put_of_type`). An allocation takes the same slot, before or after (`Heap.allocate_put`), and
other instances change in the same way (`Heap.update_put`).
-/

namespace NativeBridge.Heap

variable {C : Catalog} {heap a b : Heap C} {h k : Handle} {x y : Occupant C} {o : C.Obj}

/-- What a handle finds depends on the instance behind it only. -/
theorem get_congr (same : a.occupant? k = b.occupant? k) : a.get o k = b.get o k := by
  simp only [get, lookup, same]

theorem get_put_of_ne (live : heap.occupant? h = some x) (y : Occupant C)
    (other : k.tenancy ≠ h.tenancy) : (heap.put h y).get o k = heap.get o k :=
  get_congr ((occupant?_put live y k).trans (if_neg other))

/-- Whoever looks for another type does not notice. -/
theorem get_put_of_type (live : heap.occupant? h = some x) (kept : y.type = x.type)
    (other : x.type ≠ o) (k : Handle) : (heap.put h y).get o k = heap.get o k := by
  by_cases same : k.tenancy = h.tenancy
  · have before : heap.occupant? k = some x := (occupant?_congr heap same).trans live
    have after : (heap.put h y).occupant? k = some y := (occupant?_put live y k).trans (if_pos same)
    rw [get_of_wrongType before (Occupant.as?_eq_none_iff.2 other),
      get_of_wrongType after (Occupant.as?_eq_none_iff.2 (kept ▸ other)), wrongType, wrongType, kept]
  · exact get_put_of_ne live y same

/-- Putting the instance back that is there changes nothing. -/
theorem put_self (live : heap.occupant? h = some x) : heap.put h x = heap := by
  obtain ⟨inside, there⟩ := Array.getElem?_eq_some_iff.1 (occupant?_eq_some_iff.1 live)
  obtain ⟨slots, free, count⟩ := heap
  rw [put, mk.injEq]
  refine ⟨?_, rfl, rfl⟩
  rw [← there, Array.setIfInBounds_def, dif_pos inside]
  exact Array.set_getElem_self inside

/-- Live instances are overwritten in any order. -/
theorem put_comm (live : heap.occupant? h = some x) {z : Occupant C}
    (live' : heap.occupant? k = some z) (other : k.tenancy ≠ h.tenancy) (y w : Occupant C) :
    (heap.put h y).put k w = (heap.put k w).put h y := by
  have apart : h.index ≠ k.index := by
    intro same
    have generation : h.generation ≠ k.generation :=
      fun same' => other (Prod.ext same.symm same'.symm)
    rw [occupant?_eq_none_of_generation_ne live same.symm generation] at live'
    cases live'
  simp [put, Array.setIfInBounds_comm _ _ apart]

/-- A change of one instance and the overwriting of another can change places. -/
theorem update_put (live : heap.occupant? h = some x) (y : Occupant C)
    (other : k.tenancy ≠ h.tenancy) (change : C.Instance o → C.Instance o) :
    (heap.put h y).update o change k =
      (heap.update o change k).map fun p => (p.1, p.2.put h y) := by
  have view : (heap.put h y).occupant? k = heap.occupant? k :=
    (occupant?_put live y k).trans (if_neg other)
  cases there : heap.occupant? k with
  | none =>
    rw [update_of_stale there, update_of_stale (view.trans there)]
    rfl
  | some z =>
    cases typed : z.as? o with
    | none =>
      rw [update_of_wrongType there typed, update_of_wrongType (view.trans there) typed]
      rfl
    | some v =>
      rw [update_of_live there typed, update_of_live (view.trans there) typed,
        put_comm live there other]
      rfl

/-- An allocation and the overwriting of a live instance can change places. -/
theorem allocate_put (wf : heap.WellFormed) (live : heap.occupant? h = some x) (y : Occupant C)
    (v : C.Instance o) :
    (heap.put h y).allocate o v = (heap.allocate o v).map fun p => (p.1, p.2.put h y) := by
  have inside := index_lt_size live
  have taken := wf.index_notMem_free live
  obtain ⟨slots, free, count⟩ := heap
  cases free with
  | cons index free =>
    have other : h.index ≠ index := fun same => taken (same ▸ List.mem_cons_self ..)
    simp [allocate, put, generationAt, Except.map, other, Array.setIfInBounds_comm _ _ other]
  | nil =>
    have grow : ∀ new : Slot C, (slots.setIfInBounds h.index ⟨h.generation, some y⟩).push new =
        (slots.push new).setIfInBounds h.index ⟨h.generation, some y⟩ := by
      intro new
      rw [← Array.append_singleton, ← Array.append_singleton, Array.setIfInBounds_append_left inside]
    by_cases room : slots.size < slotLimit
    · simp [allocate, put, Except.map, room, grow]
    · simp [allocate, put, Except.map, room]

end NativeBridge.Heap
