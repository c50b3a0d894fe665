import Mathlib.Tactic.SplitIfs
import NativeBridge.Heap

/-!
# Instances behind handles

A handle reaches an instance by the slot and the generation it names, its tenancy; the identity in
it plays no part (`Heap.occupant?_congr`). What the heap holds is what `Heap.occupant?` shows, and
this module says what each operation does to that view.

`put` and `reclaim` change one live tenancy and no other (`occupant?_put`, `occupant?_reclaim`),
and `allocate` opens one, provided that the free slots are vacant (`occupant?_allocate`). An
operation that succeeds is one of these three, or changes nothing : `get_eq_ok_iff`,
`update_eq_ok_iff`, `share_eq_ok_iff`, `release_eq_ok_iff`.
-/

namespace NativeBridge

/-- A use of a slot, by index and generation. -/
abbrev Tenancy := Nat × Nat

/-- The use of a slot that a handle names. -/
def Handle.tenancy (h : Handle) : Tenancy := (h.index, h.generation)

/-- A handle is its tenancy and the identity it carries. -/
theorem Handle.eq_of_tenancy {h k : Handle} (tenancy : h.tenancy = k.tenancy)
    (identity : h.identity = k.identity) : h = k := by
  cases h
  cases k
  cases tenancy
  cases identity
  rfl

variable {C : Catalog}

/-! ## Instances of a wanted type -/

namespace Occupant

theorem as?_eq_some_iff {x : Occupant C} {o : C.Obj} {v : C.Instance o} :
    x.as? o = some v ↔ x = ⟨o, v, x.holders, x.mutated⟩ := by
  obtain ⟨type, value, holders, mutated⟩ := x
  unfold as?
  refine ⟨fun h => ?_, fun h => ?_⟩
  · split_ifs at h with ht
    cases ht
    cases h
    rfl
  · cases h
    simp

theorem as?_eq_none_iff {x : Occupant C} {o : C.Obj} : x.as? o = none ↔ x.type ≠ o := by
  unfold as?
  split_ifs with h <;> simp [h]

end Occupant

namespace Heap

variable {heap heap' : Heap C} {h k : Handle} {x y : Occupant C}

/-- An instance is behind a handle if its slot is occupied and of the same generation. -/
theorem occupant?_eq_some_iff :
    heap.occupant? h = some x ↔ heap.slots[h.index]? = some ⟨h.generation, some x⟩ := by
  unfold occupant?
  cases hs : heap.slots[h.index]? with
  | none => simp
  | some slot =>
    obtain ⟨generation, occupant⟩ := slot
    by_cases hg : generation = h.generation <;> simp [hg]

/-- Only the tenancy of a handle matters. -/
theorem occupant?_congr (heap : Heap C) (same : h.tenancy = k.tenancy) :
    heap.occupant? h = heap.occupant? k := by
  obtain ⟨hi, hg⟩ := Prod.mk.inj same
  unfold occupant?
  rw [hi, hg]

@[simp] theorem occupant?_empty (h : Handle) : (empty : Heap C).occupant? h = none := by
  simp [occupant?, empty]

/-! ## One slot overwritten -/

/-- Overwriting a slot decides about the handles to that slot, and about no others. -/
theorem occupant?_setSlot {i : Nat} (hi : i < heap.slots.size) (slot : Slot C) (free : List Nat)
    (live : Nat) (k : Handle) :
    (⟨heap.slots.setIfInBounds i slot, free, live⟩ : Heap C).occupant? k =
      if k.index = i then if slot.generation = k.generation then slot.occupant else none
      else heap.occupant? k := by
  by_cases hk : k.index = i
  · subst hk
    simp [occupant?, hi]
  · have hk' : i ≠ k.index := fun h => hk h.symm
    simp [occupant?, hk, hk']

theorem index_lt_size (live : heap.occupant? h = some x) : h.index < heap.slots.size := by
  rw [occupant?_eq_some_iff] at live
  exact (Array.getElem?_eq_some_iff.1 live).1

/-- A live slot shows nothing at any other generation. -/
theorem occupant?_eq_none_of_generation_ne (live : heap.occupant? h = some x)
    (hi : k.index = h.index) (hg : h.generation ≠ k.generation) : heap.occupant? k = none := by
  rw [occupant?_eq_some_iff] at live
  unfold occupant?
  rw [hi, live]
  exact if_neg hg

/-- Replacing an occupant changes what is behind the handles of its tenancy, and of no other. -/
theorem occupant?_put (live : heap.occupant? h = some x) (y : Occupant C) (k : Handle) :
    (heap.put h y).occupant? k = if k.tenancy = h.tenancy then some y else heap.occupant? k := by
  rw [put, occupant?_setSlot (index_lt_size live)]
  by_cases hi : k.index = h.index
  · by_cases hg : h.generation = k.generation
    · simp [Handle.tenancy, hi, hg]
    · have hg' : k.generation ≠ h.generation := fun e => hg e.symm
      simp [Handle.tenancy, hi, hg, hg', occupant?_eq_none_of_generation_ne live hi hg]
  · simp [Handle.tenancy, hi]

theorem put_put (heap : Heap C) (h : Handle) (x y : Occupant C) :
    (heap.put h x).put h y = heap.put h y := by
  simp [put]

/-- After a reclamation nothing is behind the handles of the tenancy. The others do not notice. -/
theorem occupant?_reclaim (live : heap.occupant? h = some x) (k : Handle) :
    (heap.reclaim h).occupant? k = if k.tenancy = h.tenancy then none else heap.occupant? k := by
  have vacated : ∀ generation free count,
      (⟨heap.slots.setIfInBounds h.index ⟨generation, none⟩, free, count⟩ : Heap C).occupant? k =
        if k.tenancy = h.tenancy then none else heap.occupant? k := by
    intro generation free count
    rw [occupant?_setSlot (index_lt_size live)]
    by_cases hi : k.index = h.index
    · by_cases hg : h.generation = k.generation
      · simp [Handle.tenancy, hi, hg]
      · simp [hi, occupant?_eq_none_of_generation_ne live hi hg]
    · simp [Handle.tenancy, hi]
  unfold reclaim
  split
  · exact vacated _ _ _
  · exact vacated _ _ _

/-! ## A new instance -/

/-- An allocation reuses the slot that was freed last, or adds a slot while there is room. -/
theorem allocate_eq_ok {o : C.Obj} {v : C.Instance o} (h : heap.allocate o v = .ok (k, heap')) :
    (∃ free, heap.free = k.index :: free ∧
        k = ⟨k.index, heap.generationAt k.index, C.identity o⟩ ∧
        heap' = ⟨heap.slots.setIfInBounds k.index ⟨k.generation, some ⟨o, v, 1, false⟩⟩, free,
          heap.live + 1⟩) ∨
      (heap.free = [] ∧ k = ⟨heap.slots.size, 0, C.identity o⟩ ∧
        heap' = ⟨heap.slots.push ⟨0, some ⟨o, v, 1, false⟩⟩, [], heap.live + 1⟩) := by
  unfold allocate at h
  cases hf : heap.free with
  | cons index free =>
    rw [hf] at h
    obtain ⟨rfl, rfl⟩ := Prod.mk.inj (Except.ok.inj h)
    exact Or.inl ⟨free, rfl, rfl, rfl⟩
  | nil =>
    rw [hf] at h
    dsimp only at h
    split_ifs at h
    obtain ⟨rfl, rfl⟩ := Prod.mk.inj (Except.ok.inj h)
    exact Or.inr ⟨rfl, rfl, rfl⟩

theorem identity_of_allocate {o : C.Obj} {v : C.Instance o}
    (h : heap.allocate o v = .ok (k, heap')) : k.identity = C.identity o := by
  obtain ⟨-, -, hk, -⟩ | ⟨-, hk, -⟩ := allocate_eq_ok h <;> rw [hk]

/-- An allocation fails only when there is neither a free slot nor room for another. -/
theorem allocate_eq_error {o : C.Obj} {v : C.Instance o} {e : ConversionError}
    (h : heap.allocate o v = .error e) :
    e = .heapExhausted ∧ heap.free = [] ∧ slotLimit ≤ heap.slots.size := by
  unfold allocate at h
  cases hf : heap.free with
  | cons index free =>
    rw [hf] at h
    cases h
  | nil =>
    rw [hf] at h
    dsimp only at h
    split_ifs at h with hs
    exact ⟨(Except.error.inj h).symm, rfl, Nat.le_of_not_lt hs⟩

/-- A slot without an instance. -/
def Vacant (heap : Heap C) (i : Nat) : Prop :=
  ∃ generation, heap.slots[i]? = some ⟨generation, none⟩

/-- No handle reaches into a vacant slot, whatever its generation. -/
theorem Vacant.occupant?_eq_none {i : Nat} (vacant : heap.Vacant i) (hi : h.index = i) :
    heap.occupant? h = none := by
  obtain ⟨generation, hs⟩ := vacant
  unfold occupant?
  rw [hi, hs]
  exact ite_self none

theorem Vacant.slot_eq {i : Nat} (vacant : heap.Vacant i) :
    heap.slots[i]? = some ⟨heap.generationAt i, none⟩ := by
  obtain ⟨generation, hs⟩ := vacant
  rw [generationAt, hs]
  rfl

/-- The tenancy of an allocation was not live before. -/
theorem occupant?_eq_none_of_allocate (vacant : ∀ i ∈ heap.free, heap.Vacant i) {o : C.Obj}
    {v : C.Instance o} (h : heap.allocate o v = .ok (k, heap')) : heap.occupant? k = none := by
  obtain ⟨free, hf, -, -⟩ | ⟨-, rfl, -⟩ := allocate_eq_ok h
  · exact (vacant k.index (by simp [hf])).occupant?_eq_none rfl
  · simp [occupant?]

/-- A new instance is behind the handle that was handed out for it, alone. What was reached before
is reached as before. -/
theorem occupant?_allocate (vacant : ∀ i ∈ heap.free, heap.Vacant i) {o : C.Obj}
    {v : C.Instance o} (ha : heap.allocate o v = .ok (k, heap')) (h : Handle) :
    heap'.occupant? h =
      if h.tenancy = k.tenancy then some ⟨o, v, 1, false⟩ else heap.occupant? h := by
  obtain ⟨free, hf, -, rfl⟩ | ⟨-, rfl, rfl⟩ := allocate_eq_ok ha
  · have hv := vacant k.index (by simp [hf])
    rw [occupant?_setSlot (Array.getElem?_eq_some_iff.1 hv.slot_eq).1]
    by_cases hi : h.index = k.index
    · by_cases hg : k.generation = h.generation
      · simp [Handle.tenancy, hi, hg]
      · have hg' : h.generation ≠ k.generation := fun e => hg e.symm
        simp [Handle.tenancy, hi, hg, hg', hv.occupant?_eq_none hi]
    · simp [Handle.tenancy, hi]
  · by_cases hi : h.index = heap.slots.size
    · by_cases hg : h.generation = 0
      · simp [occupant?, Handle.tenancy, hi, hg]
      · have hg' : 0 ≠ h.generation := fun e => hg e.symm
        simp [occupant?, Handle.tenancy, hi, hg, hg']
    · simp [occupant?, Handle.tenancy, hi, Array.getElem?_push]

/-! ## Operations by what a handle reaches -/

theorem lookup_of_live (live : heap.occupant? h = some x) : heap.lookup h = .ok x := by
  rw [lookup, live]

theorem lookup_of_stale (stale : heap.occupant? h = none) :
    heap.lookup h = .error (.staleHandle h.index h.generation) := by
  rw [lookup, stale]

section Get

variable {o : C.Obj} {v : C.Instance o}

theorem get_of_live (live : heap.occupant? h = some x) (typed : x.as? o = some v) :
    heap.get o h = .ok v := by
  simp [get, lookup_of_live live, typed, bind, Except.bind]

theorem get_of_wrongType (live : heap.occupant? h = some x) (untyped : x.as? o = none) :
    heap.get o h = .error (wrongType o x) := by
  simp [get, lookup_of_live live, untyped, bind, Except.bind]

theorem get_of_stale (stale : heap.occupant? h = none) :
    heap.get o h = .error (.staleHandle h.index h.generation) := by
  simp [get, lookup_of_stale stale, bind, Except.bind]

/-- What is got is what is behind the handle, if it is of that type. -/
theorem get_eq_ok_iff :
    heap.get o h = .ok v ↔ ∃ x, heap.occupant? h = some x ∧ x.as? o = some v := by
  refine ⟨fun e => ?_, ?_⟩
  · cases hx : heap.occupant? h with
    | none => cases (get_of_stale hx).symm.trans e
    | some x =>
      cases hv : x.as? o with
      | none => cases (get_of_wrongType hx hv).symm.trans e
      | some w =>
        cases (get_of_live hx hv).symm.trans e
        exact ⟨x, rfl, hv⟩
  · rintro ⟨x, live, typed⟩
    exact get_of_live live typed

end Get

section Update

variable {o : C.Obj} {v : C.Instance o} {change : C.Instance o → C.Instance o}

theorem update_of_live (live : heap.occupant? h = some x) (typed : x.as? o = some v) :
    heap.update o change h = .ok (v, heap.put h ⟨o, change v, x.holders, true⟩) := by
  simp [update, lookup_of_live live, typed, bind, Except.bind]

theorem update_of_wrongType (live : heap.occupant? h = some x) (untyped : x.as? o = none) :
    heap.update o change h = .error (wrongType o x) := by
  simp [update, lookup_of_live live, untyped, bind, Except.bind]

theorem update_of_stale (stale : heap.occupant? h = none) :
    heap.update o change h = .error (.staleHandle h.index h.generation) := by
  simp [update, lookup_of_stale stale, bind, Except.bind]

/-- A change is of what is behind the handle, and leaves a mark. The former value is handed back. -/
theorem update_eq_ok_iff :
    heap.update o change h = .ok (v, heap') ↔
      ∃ x, heap.occupant? h = some x ∧ x.as? o = some v ∧
        heap' = heap.put h ⟨o, change v, x.holders, true⟩ := by
  refine ⟨fun e => ?_, ?_⟩
  · cases hx : heap.occupant? h with
    | none => cases (update_of_stale hx).symm.trans e
    | some x =>
      cases hv : x.as? o with
      | none => cases (update_of_wrongType hx hv).symm.trans e
      | some w =>
        cases (update_of_live hx hv).symm.trans e
        exact ⟨x, rfl, hv, rfl⟩
  · rintro ⟨x, live, typed, rfl⟩
    exact update_of_live live typed

end Update

/-- A share counts one holder more, up to the limit. -/
theorem share_of_shared (live : heap.occupant? h = some x) (shared : C.sharing x.type = .shared) :
    heap.share h = .ok (min (x.holders + 1) holderLimit,
      heap.put h { x with holders := min (x.holders + 1) holderLimit }) := by
  simp [share, live, shared]

/-- An instance of an exclusive type gets no second holder. -/
theorem share_of_exclusive (live : heap.occupant? h = some x)
    (exclusive : C.sharing x.type = .exclusive) :
    heap.share h = .error (.sharingViolation (C.name x.type) "share") := by
  simp [share, live, exclusive]

theorem share_of_stale (stale : heap.occupant? h = none) :
    heap.share h = .error (.useAfterFree h.index h.generation) := by
  rw [share, stale]

/-- Only live instances of shared types are shared. -/
theorem share_eq_ok_iff {n : Nat} :
    heap.share h = .ok (n, heap') ↔
      ∃ x, heap.occupant? h = some x ∧ C.sharing x.type = .shared ∧
        n = min (x.holders + 1) holderLimit ∧ heap' = heap.put h { x with holders := n } := by
  refine ⟨fun e => ?_, ?_⟩
  · cases hx : heap.occupant? h with
    | none => cases (share_of_stale hx).symm.trans e
    | some x =>
      cases hs : C.sharing x.type with
      | exclusive => cases (share_of_exclusive hx hs).symm.trans e
      | shared =>
        cases (share_of_shared hx hs).symm.trans e
        exact ⟨x, rfl, hs, rfl, rfl⟩
  · rintro ⟨x, live, shared, rfl, rfl⟩
    exact share_of_shared live shared

/-- As long as there are other holders, a release counts one down. -/
theorem release_of_others (live : heap.occupant? h = some x) (others : 0 < x.holders - 1) :
    heap.release h = .ok (false, heap.put h { x with holders := x.holders - 1 }) := by
  simp [release, live, others]

/-- The release of the last holder reclaims the instance. -/
theorem release_of_last (live : heap.occupant? h = some x) (last : x.holders - 1 = 0) :
    heap.release h = .ok (true, heap.reclaim h) := by
  simp [release, live, last]

theorem release_of_stale (stale : heap.occupant? h = none) :
    heap.release h = .error (.useAfterFree h.index h.generation) := by
  rw [release, stale]

/-- The last holder takes the instance along. -/
theorem release_eq_ok_iff {last : Bool} :
    heap.release h = .ok (last, heap') ↔
      ∃ x, heap.occupant? h = some x ∧
        (0 < x.holders - 1 ∧ last = false ∧ heap' = heap.put h { x with holders := x.holders - 1 } ∨
          x.holders - 1 = 0 ∧ last = true ∧ heap' = heap.reclaim h) := by
  refine ⟨fun e => ?_, ?_⟩
  · cases hx : heap.occupant? h with
    | none => cases (release_of_stale hx).symm.trans e
    | some x =>
      rcases Nat.eq_zero_or_pos (x.holders - 1) with hn | hn
      · cases (release_of_last hx hn).symm.trans e
        exact ⟨x, rfl, Or.inr ⟨hn, rfl, rfl⟩⟩
      · cases (release_of_others hx hn).symm.trans e
        exact ⟨x, rfl, Or.inl ⟨hn, rfl, rfl⟩⟩
  · rintro ⟨x, live, ⟨others, rfl, rfl⟩ | ⟨last, rfl, rfl⟩⟩
    · exact release_of_others live others
    · exact release_of_last live last

end Heap

end NativeBridge
