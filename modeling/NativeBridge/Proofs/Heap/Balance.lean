import NativeBridge.Proofs.Heap.Store

/-!
# The books of the heap

Next to its slots the heap keeps books : the list of free slots, the number of live instances, and the
holders of each instance. `Heap.Orderly` says that they tell the truth, as far as no free slot is
occupied. That no vacant slot is missing from the free list either (`Heap.Complete`) takes more, since a
slot that is vacated in its last generation is given up. `Heap.Spares` : a run in which this does not
happen.

What an operation can do is said once, by `Heap.Performs` for what succeeded and by `Heap.Effect` for
what becomes of the heap; a run keeps the books in order because each effect does
(`Heap.Orderly.of_effect`, `Heap.Complete.of_effect`). `Heap.run_balanced` : after any run, with any
handles, the books are right, and so nothing that operations take for granted can fail. An allocation
finds its free slot among the slots and vacant, and what is subtracted from the number of instances and
from the holders of an instance is there.
-/

namespace NativeBridge

variable {C : Catalog}

/-- Somebody holds the instance, and nobody else does unless it is shared. -/
structure Occupant.Held (x : Occupant C) : Prop where
  pos : 0 < x.holders
  exclusive : C.sharing x.type = .exclusive → x.holders = 1

/-- The handle that an operation issues. -/
def HeapOperation.issued? : (op : HeapOperation C) → op.Answer → Option Handle
  | .allocate _ _, .ok k => some k
  | _, _ => none

namespace Heap

variable {heap heap' : Heap C} {op : HeapOperation C} {ops : List (HeapOperation C)}
  {h k : Handle} {x y : Occupant C}

/-! ## Runs -/

/-- The heap after a run of operations. -/
def run (heap : Heap C) (ops : List (HeapOperation C)) : Heap C :=
  ops.foldl (fun heap op => (heap.perform op).2) heap

theorem run_concat (heap : Heap C) (ops : List (HeapOperation C)) (op : HeapOperation C) :
    heap.run (ops ++ [op]) = ((heap.run ops).perform op).2 := by
  simp [run]

/-- What an operation can do : it leaves the heap as it is, or it is one of those that change heaps and
succeeds. -/
inductive Performs (heap : Heap C) : HeapOperation C → Option Handle → Heap C → Prop
  | idle {op : HeapOperation C} : Performs heap op none heap
  | allocate {o : C.Obj} {v : C.Instance o} {k : Handle} {heap' : Heap C}
      (done : heap.allocate o v = .ok (k, heap')) : Performs heap (.allocate o v) (some k) heap'
  | overwrite {o : C.Obj} {h : Handle} {v w : C.Instance o} {heap' : Heap C}
      (done : heap.update o (fun _ => w) h = .ok (v, heap')) :
      Performs heap (.overwrite o h w) none heap'
  | share {h : Handle} {n : Nat} {heap' : Heap C} (done : heap.share h = .ok (n, heap')) :
      Performs heap (.share h) none heap'
  | release {h : Handle} {last : Bool} {heap' : Heap C}
      (done : heap.release h = .ok (last, heap')) : Performs heap (.release h) none heap'

theorem performs (heap : Heap C) (op : HeapOperation C) :
    heap.Performs op (op.issued? (heap.perform op).1) (heap.perform op).2 := by
  cases op with
  | get | validate | typeName | state | holders | live => exact .idle
  | allocate o v =>
    change heap.Performs _ (HeapOperation.issued? (.allocate o v) (heap.settle _).1) (heap.settle _).2
    cases done : heap.allocate o v with
    | ok p => exact .allocate done
    | error e => exact .idle
  | overwrite o h w =>
    change heap.Performs _ none (heap.settle _).2
    cases done : heap.update o (fun _ => w) h with
    | ok p => exact .overwrite done
    | error e => exact .idle
  | share h =>
    change heap.Performs _ none (heap.settle _).2
    cases done : heap.share h with
    | ok p => exact .share done
    | error e => exact .idle
  | release h =>
    change heap.Performs _ none (heap.settle _).2
    cases done : heap.release h with
    | ok p => exact .release done
    | error e => exact .idle

/-- What becomes of a heap : it is as it was, an allocation succeeded, an instance was changed in place
and is held as well as before, or a release took the last holder of one. -/
inductive Effect (heap : Heap C) : HeapOperation C → Heap C → Prop
  | same {op : HeapOperation C} : Effect heap op heap
  | allocate {o : C.Obj} {v : C.Instance o} {k : Handle} {heap' : Heap C}
      (done : heap.allocate o v = .ok (k, heap')) : Effect heap (.allocate o v) heap'
  | put {op : HeapOperation C} {h : Handle} {x y : Occupant C} (live : heap.occupant? h = some x)
      (held : x.Held → y.Held) : Effect heap op (heap.put h y)
  | reclaim {h : Handle} {x : Occupant C} (live : heap.occupant? h = some x)
      (last : x.holders - 1 = 0) : Effect heap (.release h) (heap.reclaim h)

/-- What an operation does to the slots is one of four things. -/
theorem Performs.effect {issued : Option Handle} (performs : heap.Performs op issued heap') :
    heap.Effect op heap' := by
  cases performs with
  | idle => exact .same
  | allocate done => exact .allocate done
  | overwrite done =>
    obtain ⟨x, live, typed, rfl⟩ := update_eq_ok_iff.1 done
    rw [Occupant.as?_eq_some_iff.1 typed] at live
    exact .put live fun held => ⟨held.pos, held.exclusive⟩
  | share done =>
    obtain ⟨x, live, shared, rfl, rfl⟩ := share_eq_ok_iff.1 done
    refine .put live fun _ => ⟨Nat.lt_min.2 ⟨Nat.succ_pos _, by decide⟩, fun exclusive => ?_⟩
    cases shared.symm.trans exclusive
  | release done =>
    obtain ⟨x, live, ⟨others, -, rfl⟩ | ⟨last, -, rfl⟩⟩ := release_eq_ok_iff.1 done
    · refine .put live fun held => ⟨others, fun exclusive => ?_⟩
      have single := held.exclusive exclusive
      omega
    · exact .reclaim live last

theorem effect_perform (heap : Heap C) (op : HeapOperation C) :
    heap.Effect op (heap.perform op).2 :=
  (performs heap op).effect

/-! ## The number of instances -/

/-- Number of slots with an instance. -/
def population (heap : Heap C) : Nat := heap.slots.countP (·.occupant.isSome)

theorem population_le_size (heap : Heap C) : heap.population ≤ heap.slots.size :=
  Array.countP_le_size

/-- What overwriting a slot does to the number of instances. -/
theorem population_setSlot {i : Nat} {old : Slot C} (there : heap.slots[i]? = some old)
    (new : Slot C) (free : List Nat) (live : Nat) :
    (⟨heap.slots.setIfInBounds i new, free, live⟩ : Heap C).population =
      heap.population - (if old.occupant.isSome then 1 else 0) +
        (if new.occupant.isSome then 1 else 0) := by
  obtain ⟨inside, rfl⟩ := Array.getElem?_eq_some_iff.1 there
  rw [population, Array.setIfInBounds_def, dif_pos inside, Array.countP_set]
  rfl

theorem population_pos (live : heap.occupant? h = some x) : 0 < heap.population := by
  have there := occupant?_eq_some_iff.1 live
  exact Array.countP_pos_iff.2 ⟨_, Array.mem_of_getElem? there, rfl⟩

theorem population_put (live : heap.occupant? h = some x) (y : Occupant C) :
    (heap.put h y).population = heap.population := by
  have pos := population_pos live
  rw [put, population_setSlot (occupant?_eq_some_iff.1 live)]
  exact Nat.sub_add_cancel pos

/-- A reclamation takes one away. -/
theorem population_reclaim (live : heap.occupant? h = some x) :
    (heap.reclaim h).population = heap.population - 1 := by
  have there := occupant?_eq_some_iff.1 live
  unfold reclaim
  split_ifs <;> exact population_setSlot there ⟨_, none⟩ _ _

/-- An allocation adds one, whether it takes a free slot or a new one. -/
theorem WellFormed.population_allocate (wf : heap.WellFormed) {o : C.Obj} {v : C.Instance o}
    (done : heap.allocate o v = .ok (k, heap')) : heap'.population = heap.population + 1 := by
  obtain ⟨free, hf, -, rfl⟩ | ⟨-, -, rfl⟩ := allocate_eq_ok done
  · exact population_setSlot (wf.free_vacant k.index (by simp [hf])).slot_eq _ _ _
  · exact Array.countP_push

/-! ## Books in order -/

/-- Free slots are distinct and vacant, the number of instances is counted right, and every instance is
held as its type permits. -/
structure Orderly (heap : Heap C) : Prop extends WellFormed heap where
  live_eq : heap.live = heap.population
  held : ∀ h x, heap.occupant? h = some x → x.Held

theorem orderly_empty : (empty : Heap C).Orderly where
  toWellFormed := wellFormed_empty
  live_eq := rfl
  held h x live := by simp at live

namespace Orderly

theorem put (orderly : heap.Orderly) (live : heap.occupant? h = some x) (held : y.Held) :
    (heap.put h y).Orderly where
  toWellFormed := orderly.toWellFormed.put live y
  live_eq := by
    rw [population_put live, ← orderly.live_eq]
    rfl
  held k z there := by
    rw [occupant?_put live] at there
    split_ifs at there
    · cases there
      exact held
    · exact orderly.held k z there

theorem reclaim (orderly : heap.Orderly) (live : heap.occupant? h = some x) :
    (heap.reclaim h).Orderly where
  toWellFormed := orderly.toWellFormed.reclaim live
  live_eq := by rw [population_reclaim live, live_reclaim, orderly.live_eq]
  held k z there := by
    rw [occupant?_reclaim live] at there
    split_ifs at there
    exact orderly.held k z there

theorem allocate (orderly : heap.Orderly) {o : C.Obj} {v : C.Instance o}
    (done : heap.allocate o v = .ok (k, heap')) : heap'.Orderly where
  toWellFormed := orderly.toWellFormed.allocate done
  live_eq := by rw [orderly.toWellFormed.population_allocate done, live_allocate done, orderly.live_eq]
  held h z there := by
    rw [occupant?_allocate orderly.free_vacant done] at there
    split_ifs at there
    · cases there
      exact ⟨Nat.one_pos, fun _ => rfl⟩
    · exact orderly.held h z there

/-- Each operation leaves the books in order. -/
theorem of_effect (orderly : heap.Orderly) (effect : heap.Effect op heap') : heap'.Orderly := by
  cases effect with
  | same => exact orderly
  | allocate done => exact orderly.allocate done
  | put live held => exact orderly.put live (held (orderly.held _ _ live))
  | reclaim live _ => exact orderly.reclaim live

/-- A run keeps the books in order. By induction on its operations. -/
theorem run (orderly : heap.Orderly) (ops : List (HeapOperation C)) : (heap.run ops).Orderly := by
  induction ops using List.reverseRecOn with
  | nil => exact orderly
  | append_singleton ops op ih =>
    rw [run_concat]
    exact ih.of_effect (effect_perform _ op)

end Orderly

/-! ## Slots given up -/

/-- The operation gives up no slot : an instance that loses its last holder is not of the last
generation. -/
def SparesOne (heap : Heap C) : HeapOperation C → Prop
  | .release h => ∀ x ∈ heap.occupant? h, x.holders - 1 = 0 → h.generation < lastGeneration
  | _ => True

/-- No operation of a run gives up a slot. -/
def Spares (heap : Heap C) : List (HeapOperation C) → Prop
  | [] => True
  | op :: ops => heap.SparesOne op ∧ (heap.perform op).2.Spares ops

instance (heap : Heap C) : DecidablePred heap.SparesOne
  | .release h => inferInstanceAs (Decidable (∀ x ∈ heap.occupant? h, _))
  | .allocate _ _ | .get _ _ | .overwrite _ _ _ | .validate _ | .typeName _ | .state _ | .share _
  | .holders _ | .live => .isTrue trivial

instance decidableSpares : (heap : Heap C) → DecidablePred heap.Spares
  | _, [] => .isTrue trivial
  | heap, op :: ops =>
    have := decidableSpares (heap.perform op).2 ops
    inferInstanceAs (Decidable (_ ∧ _))

/-- A run spares the slots if both of its parts do, the second from where the first ends. -/
theorem spares_append {past rest : List (HeapOperation C)} :
    heap.Spares (past ++ rest) ↔ heap.Spares past ∧ (heap.run past).Spares rest := by
  induction past generalizing heap with
  | nil => exact ⟨fun spares => ⟨trivial, spares⟩, And.right⟩
  | cons first past ih =>
    change (_ ∧ Spares _ (past ++ rest)) ↔ (_ ∧ _) ∧ _
    rw [ih, and_assoc]
    rfl

theorem spares_concat : heap.Spares (ops ++ [op]) ↔
    heap.Spares ops ∧ (heap.run ops).SparesOne op :=
  spares_append.trans (and_congr_right fun _ => ⟨And.left, fun spares => ⟨spares, trivial⟩⟩)

/-- All vacant slots wait to be used again, so that each slot is occupied or free. -/
structure Complete (heap : Heap C) : Prop where
  vacant_free : ∀ i, heap.Vacant i → i ∈ heap.free
  size_eq : heap.live + heap.free.length = heap.slots.size

theorem complete_empty : (empty : Heap C).Complete where
  vacant_free i vacant := by
    obtain ⟨generation, there⟩ := vacant
    simp [empty] at there
  size_eq := rfl

/-- One slot is replaced, and the others are vacant or not as before. -/
theorem vacant_setSlot {i : Nat} (inside : i < heap.slots.size) (slot : Slot C) (free : List Nat)
    (live j : Nat) : (⟨heap.slots.setIfInBounds i slot, free, live⟩ : Heap C).Vacant j ↔
      if j = i then slot.occupant = none else heap.Vacant j := by
  obtain ⟨generation, occupant⟩ := slot
  by_cases same : j = i
  · subst same
    simp [Vacant, inside]
  · have other : i ≠ j := fun e => same e.symm
    simp [Vacant, same, other]

namespace Complete

theorem put (complete : heap.Complete) (live : heap.occupant? h = some x) (y : Occupant C) :
    (heap.put h y).Complete where
  vacant_free i vacant := by
    rw [Heap.put, vacant_setSlot (index_lt_size live)] at vacant
    split_ifs at vacant
    exact complete.vacant_free i vacant
  size_eq := by
    rw [Heap.put, Array.size_setIfInBounds]
    exact complete.size_eq

theorem reclaim (complete : heap.Complete) (orderly : heap.Orderly)
    (live : heap.occupant? h = some x) (spares : h.generation < lastGeneration) :
    (heap.reclaim h).Complete := by
  have inside := index_lt_size live
  have counted : 0 < heap.live := orderly.live_eq ▸ population_pos live
  have size := complete.size_eq
  unfold Heap.reclaim
  rw [if_pos spares]
  refine ⟨fun i vacant => ?_, ?_⟩
  · rw [vacant_setSlot inside] at vacant
    split_ifs at vacant with here
    · exact here ▸ List.mem_cons_self
    · exact List.mem_cons_of_mem _ (complete.vacant_free i vacant)
  · change heap.live - 1 + (h.index :: heap.free).length = _
    rw [List.length_cons, Array.size_setIfInBounds]
    omega

theorem allocate (complete : heap.Complete) (wf : heap.WellFormed) {o : C.Obj} {v : C.Instance o}
    (done : heap.allocate o v = .ok (k, heap')) : heap'.Complete := by
  have size := complete.size_eq
  obtain ⟨free, hf, -, rfl⟩ | ⟨hf, -, rfl⟩ := allocate_eq_ok done
  · have there := (wf.free_vacant k.index (by simp [hf])).slot_eq
    refine ⟨fun i vacant => ?_, ?_⟩
    · rw [vacant_setSlot (Array.getElem?_eq_some_iff.1 there).1] at vacant
      split_ifs at vacant with here
      have free := complete.vacant_free i vacant
      rw [hf] at free
      exact (List.mem_cons.1 free).resolve_left here
    · change heap.live + 1 + free.length = _
      rw [hf, List.length_cons] at size
      rw [Array.size_setIfInBounds]
      omega
  · refine ⟨fun i vacant => ?_, ?_⟩
    · -- The new slot is occupied, and no other was vacant.
      obtain ⟨generation, there⟩ := vacant
      rw [Array.getElem?_push] at there
      split_ifs at there
      · cases there
      · exact hf ▸ complete.vacant_free i ⟨generation, there⟩
    · change heap.live + 1 = _
      rw [hf] at size
      rw [Array.size_push, ← size]
      rfl

/-- Each of the four effects keeps the list of free slots complete, if no slot is given up. -/
theorem of_effect (complete : heap.Complete) (orderly : heap.Orderly) (spares : heap.SparesOne op)
    (effect : heap.Effect op heap') : heap'.Complete := by
  cases effect with
  | same => exact complete
  | allocate done => exact complete.allocate orderly.toWellFormed done
  | put live _ => exact complete.put live _
  | reclaim live last => exact complete.reclaim orderly live (spares _ live last)

/-- A run that gives up no slot keeps the list of free slots complete. -/
theorem run (complete : heap.Complete) (orderly : heap.Orderly) (spares : heap.Spares ops) :
    (heap.run ops).Complete := by
  induction ops using List.reverseRecOn with
  | nil => exact complete
  | append_singleton ops op ih =>
    rw [spares_concat] at spares
    rw [run_concat]
    exact (ih spares.1).of_effect (orderly.run ops) spares.2 (effect_perform _ op)

end Complete

/-! ## What operations take for granted -/

theorem Vacant.lt_size {i : Nat} (vacant : heap.Vacant i) : i < heap.slots.size :=
  (Array.getElem?_eq_some_iff.1 vacant.slot_eq).1

theorem state_ne_reclaimed (live : heap.occupant? h = some x) : heap.state h ≠ .reclaimed := by
  rw [state, live]
  change x.state ≠ .reclaimed
  unfold Occupant.state
  split_ifs <;> decide

/-- An allocation takes a free slot, or one more if there is none. -/
theorem index_of_allocate {o : C.Obj} {v : C.Instance o} (done : heap.allocate o v = .ok (k, heap')) :
    k.index ∈ heap.free ∨ heap.free = [] ∧ k.index = heap.slots.size := by
  obtain ⟨free, hf, -, -⟩ | ⟨hf, rfl, -⟩ := allocate_eq_ok done
  · exact Or.inl (hf ▸ List.mem_cons_self)
  · exact Or.inr ⟨hf, rfl⟩

/-- No live instance is in the slot of an allocation, and all stay where they are. -/
theorem WellFormed.spared_by_allocate (wf : heap.WellFormed) {o : C.Obj} {v : C.Instance o}
    (done : heap.allocate o v = .ok (k, heap')) (live : heap.occupant? h = some x) :
    h.index ≠ k.index ∧ heap'.occupant? h = some x := by
  have apart : h.index ≠ k.index := by
    intro same
    rcases index_of_allocate done with free | ⟨-, new⟩
    · exact wf.index_notMem_free live (same ▸ free)
    · exact Nat.ne_of_lt (index_lt_size live) (same.trans new)
  refine ⟨apart, ?_⟩
  rw [occupant?_allocate wf.free_vacant done, if_neg fun e => apart (congrArg Prod.fst e), live]

/-- A release takes one holder away, and with the last one an instance. -/
theorem Orderly.release (orderly : heap.Orderly) {last : Bool}
    (done : heap.release h = .ok (last, heap')) :
    ∃ n, heap.holders? h = some (n + 1) ∧
      (last = false ∧ heap'.holders? h = some n ∧ heap'.live = heap.live ∨
        last = true ∧ n = 0 ∧ heap'.holders? h = none ∧ heap'.live + 1 = heap.live) := by
  obtain ⟨x, live, change⟩ := release_eq_ok_iff.1 done
  have held := (orderly.held h x live).pos
  refine ⟨x.holders - 1, ?_, ?_⟩
  · rw [holders?, live, Nat.sub_add_cancel held]
    rfl
  · obtain ⟨-, rfl, rfl⟩ | ⟨gone, rfl, rfl⟩ := change
    · refine Or.inl ⟨rfl, ?_, rfl⟩
      rw [holders?, occupant?_put live, if_pos rfl]
      rfl
    · have counted : 0 < heap.live := orderly.live_eq ▸ population_pos live
      refine Or.inr ⟨rfl, gone, ?_, ?_⟩
      · rw [holders?, occupant?_reclaim live, if_pos rfl]
        rfl
      · rw [live_reclaim, Nat.sub_add_cancel counted]

/-- After any run on the empty heap, free slots are distinct, and vacant slots of the heap; live
instances are counted, and each is held, by one holder if it is not shared. If the run has given up no
slot, the free ones are all that are vacant. An allocation then overwrites no instance, and a release
takes away a holder, and an instance, that is there. -/
theorem run_balanced (ops : List (HeapOperation C)) :
    let heap := (empty : Heap C).run ops
    heap.free.Nodup ∧ (∀ i ∈ heap.free, i < heap.slots.size ∧ heap.Vacant i) ∧
    ((empty : Heap C).Spares ops →
      (∀ i, i ∈ heap.free ↔ heap.Vacant i) ∧ heap.live + heap.free.length = heap.slots.size) ∧
    heap.live = heap.population ∧
    (∀ i generation x, heap.slots[i]? = some ⟨generation, some x⟩ →
      1 ≤ x.holders ∧ (C.sharing x.type = .exclusive → x.holders = 1) ∧
        ∀ identity, heap.state ⟨i, generation, identity⟩ ≠ .reclaimed) ∧
    (∀ o v k heap', heap.allocate o v = .ok (k, heap') →
      (k.index ∈ heap.free ∨ heap.free = [] ∧ k.index = heap.slots.size) ∧
        ∀ h x, heap.occupant? h = some x → h.index ≠ k.index ∧ heap'.occupant? h = some x) ∧
    ∀ h last heap', heap.release h = .ok (last, heap') →
      ∃ n, heap.holders? h = some (n + 1) ∧
        (last = false ∧ heap'.holders? h = some n ∧ heap'.live = heap.live ∨
          last = true ∧ n = 0 ∧ heap'.holders? h = none ∧ heap'.live + 1 = heap.live) := by
  intro heap
  have orderly : heap.Orderly := orderly_empty.run ops
  refine ⟨orderly.free_nodup, fun i free => ?_, fun spares => ?_, orderly.live_eq,
    fun i generation x there => ?_, fun o v k heap' done => ?_, fun h last heap' => orderly.release⟩
  · have vacant := orderly.free_vacant i free
    exact ⟨vacant.lt_size, vacant⟩
  · have complete : heap.Complete := complete_empty.run orderly_empty spares
    exact ⟨fun i => ⟨orderly.free_vacant i, complete.vacant_free i⟩, complete.size_eq⟩
  · have live : ∀ identity, heap.occupant? ⟨i, generation, identity⟩ = some x :=
      fun identity => occupant?_eq_some_iff.2 there
    have held := orderly.held _ x (live .empty)
    exact ⟨held.pos, held.exclusive, fun identity => state_ne_reclaimed (live identity)⟩
  · exact ⟨index_of_allocate done, fun h x => orderly.toWellFormed.spared_by_allocate done⟩

open Gallery in
/-- Two slots, of which one is used again, a shared instance, and handles that are stale or forged. -/
theorem run_balanced_reuse :
    let first : Handle := ⟨0, 0, catalog.identity .marker⟩
    let second : Handle := ⟨0, 1, catalog.identity .counter⟩
    let ops : List (HeapOperation catalog) :=
      [.allocate .marker ⟨⟩, .allocate .counter ⟨.wrap .i64 5⟩, .release first, .release first,
        .allocate .counter ⟨.wrap .i64 6⟩, .share second, .release ⟨1, 7, .empty⟩,
        .release second, .overwrite .marker second ⟨⟩, .release ⟨1, 0, .empty⟩]
    let heap := (empty : Heap catalog).run ops
    (empty : Heap catalog).Spares ops ∧ heap.free = [1] ∧ heap.live = 1 ∧
      (∀ i, i ∈ heap.free ↔ heap.Vacant i) ∧ heap.live + heap.free.length = heap.slots.size := by
  intro first second ops heap
  have spares : (empty : Heap catalog).Spares ops := by decide
  obtain ⟨-, -, complete, -⟩ := run_balanced ops
  exact ⟨spares, by decide, by decide, complete spares⟩

end Heap

end NativeBridge
