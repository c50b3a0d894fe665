import Mathlib.Data.Finmap
import NativeBridge.Gallery.Exhibit
import NativeBridge.Proofs.Heap.Evolution

/-!
# The heap as a store of instances

Slots, generations and the list of free slots are means to an end. `Store` is the end : a finite map
from tenancies to instances with their holders, and the tenancies issued so far. `Store.Step` gives
the rules of its operations, one for each way an operation can go. An allocation may use any tenancy
that has not been issued, and an operation that fails leaves the store as it is.

`Heap.log_empty_runs` : as long as slots and holders stay within what the heap can count
(`Heap.Fits`), the answers of any run of operations on the empty heap, with any handles, are those
of a run of the store.
-/

namespace NativeBridge

variable {C : Catalog}

/-! ## Operations and runs -/

/-- What can be asked of a heap, with any handle. -/
inductive HeapOperation (C : Catalog)
  | allocate (o : C.Obj) (v : C.Instance o)
  | get (o : C.Obj) (h : Handle)
  /-- Overwrites an instance. The answer is the instance before. -/
  | overwrite (o : C.Obj) (h : Handle) (v : C.Instance o)
  | validate (h : Handle)
  | typeName (h : Handle)
  | state (h : Handle)
  | share (h : Handle)
  | release (h : Handle)
  | holders (h : Handle)
  | live

/-- Type of the answer to an operation. -/
@[reducible] def HeapOperation.Answer : HeapOperation C → Type
  | allocate _ _ => Except ConversionError Handle
  | get o _ | overwrite o _ _ => Except ConversionError (C.Instance o)
  | validate _ => Except ConversionError Unit
  | typeName _ => Except ConversionError String
  | state _ => Lifecycle
  | share _ => Except BindingError Nat
  | release _ => Except BindingError Bool
  | holders _ => Option Nat
  | live => Nat

/-- Operations with their answers, in order. -/
abbrev HeapLog (C : Catalog) := List (Σ op : HeapOperation C, op.Answer)

namespace Heap

/-- The answer of an operation and the heap after it, which is the heap before if it fails. -/
def settle {ε α : Type} (heap : Heap C) : Except ε (α × Heap C) → Except ε α × Heap C
  | .ok (a, heap) => (.ok a, heap)
  | .error e => (.error e, heap)

/-- Carries out an operation. -/
def perform (heap : Heap C) : (op : HeapOperation C) → op.Answer × Heap C
  | .allocate o v => heap.settle (heap.allocate o v)
  | .get o h => (heap.get o h, heap)
  | .overwrite o h v => heap.settle (heap.update o (fun _ => v) h)
  | .validate h => (heap.validate h, heap)
  | .typeName h => (heap.typeName h, heap)
  | .state h => (heap.state h, heap)
  | .share h => heap.settle (heap.share h)
  | .release h => heap.settle (heap.release h)
  | .holders h => (heap.holders? h, heap)
  | .live => (heap.live, heap)

/-- The answers to a run of operations. -/
def log (heap : Heap C) : List (HeapOperation C) → HeapLog C
  | [] => []
  | op :: ops => ⟨op, (heap.perform op).1⟩ :: (heap.perform op).2.log ops

/-- There is a slot for a new instance, and a count for a new holder. -/
def FitsOne (heap : Heap C) : HeapOperation C → Prop
  | .allocate _ _ => heap.free ≠ [] ∨ heap.slots.size < slotLimit
  | .share h => ∀ x ∈ heap.occupant? h, x.holders < holderLimit
  | _ => True

/-- Every operation of a run finds the slot or the count that it needs. -/
def Fits (heap : Heap C) : List (HeapOperation C) → Prop
  | [] => True
  | op :: ops => heap.FitsOne op ∧ (heap.perform op).2.Fits ops

instance (heap : Heap C) : DecidablePred heap.FitsOne
  | .allocate _ _ => inferInstanceAs (Decidable (_ ∨ _))
  | .share h => inferInstanceAs (Decidable (∀ x ∈ heap.occupant? h, _))
  | .get _ _ | .overwrite _ _ _ | .validate _ | .typeName _ | .state _ | .release _ | .holders _
  | .live => .isTrue trivial

instance decidableFits : (heap : Heap C) → DecidablePred heap.Fits
  | _, [] => .isTrue trivial
  | heap, op :: ops =>
    have := decidableFits (heap.perform op).2 ops
    inferInstanceAs (Decidable (_ ∧ _))

end Heap

/-! ## The store -/

/-- Instances by tenancy, and every tenancy that has been issued. -/
structure Store (C : Catalog) where
  entries : Finmap fun _ : Tenancy => Occupant C
  issued : List Tenancy

namespace Store

def empty : Store C := ⟨∅, []⟩

/-- The entry that a handle names. -/
def find? (s : Store C) (h : Handle) : Option (Occupant C) := s.entries.lookup h.tenancy

/-- Changes an entry. -/
def write (s : Store C) (h : Handle) (x : Occupant C) : Store C :=
  { s with entries := s.entries.insert h.tenancy x }

def erase (s : Store C) (h : Handle) : Store C :=
  { s with entries := s.entries.erase h.tenancy }

/-- A new entry : untouched, with one holder. -/
def issue (s : Store C) (t : Tenancy) (o : C.Obj) (v : C.Instance o) : Store C where
  entries := s.entries.insert t ⟨o, v, 1, false⟩
  issued := t :: s.issued

/-- Number of entries. -/
def size (s : Store C) : Nat := s.entries.keys.card

/-- The rules of the store : an operation, its answer, and the store after it. -/
inductive Step : Store C → (op : HeapOperation C) → op.Answer → Store C → Prop
  | allocate {s : Store C} {o : C.Obj} {v : C.Instance o} {t : Tenancy} (fresh : t ∉ s.issued) :
      Step s (.allocate o v) (.ok ⟨t.1, t.2, C.identity o⟩) (s.issue t o v)
  | get {s : Store C} {o : C.Obj} {v : C.Instance o} {n : Nat} {m : Bool} {h : Handle}
      (found : s.find? h = some ⟨o, v, n, m⟩) : Step s (.get o h) (.ok v) s
  | get_wrongType {s : Store C} {o : C.Obj} {h : Handle} {x : Occupant C}
      (found : s.find? h = some x) (other : x.type ≠ o) :
      Step s (.get o h) (.error (.typeMismatch (C.name o) (C.name x.type))) s
  | get_stale {s : Store C} {o : C.Obj} {h : Handle} (stale : s.find? h = none) :
      Step s (.get o h) (.error (.staleHandle h.index h.generation)) s
  | overwrite {s : Store C} {o : C.Obj} {v w : C.Instance o} {n : Nat} {m : Bool} {h : Handle}
      (found : s.find? h = some ⟨o, v, n, m⟩) :
      Step s (.overwrite o h w) (.ok v) (s.write h ⟨o, w, n, true⟩)
  | overwrite_wrongType {s : Store C} {o : C.Obj} {w : C.Instance o} {h : Handle}
      {x : Occupant C} (found : s.find? h = some x) (other : x.type ≠ o) :
      Step s (.overwrite o h w) (.error (.typeMismatch (C.name o) (C.name x.type))) s
  | overwrite_stale {s : Store C} {o : C.Obj} {w : C.Instance o} {h : Handle}
      (stale : s.find? h = none) :
      Step s (.overwrite o h w) (.error (.staleHandle h.index h.generation)) s
  | validate {s : Store C} {h : Handle} {x : Occupant C} (found : s.find? h = some x) :
      Step s (.validate h) (.ok ()) s
  | validate_stale {s : Store C} {h : Handle} (stale : s.find? h = none) :
      Step s (.validate h) (.error (.staleHandle h.index h.generation)) s
  | typeName {s : Store C} {h : Handle} {x : Occupant C} (found : s.find? h = some x) :
      Step s (.typeName h) (.ok (C.name x.type)) s
  | typeName_stale {s : Store C} {h : Handle} (stale : s.find? h = none) :
      Step s (.typeName h) (.error (.staleHandle h.index h.generation)) s
  | state {s : Store C} {h : Handle} {x : Occupant C} (found : s.find? h = some x) :
      Step s (.state h) (if x.mutated then .mutated else .constructed) s
  | state_stale {s : Store C} {h : Handle} (stale : s.find? h = none) :
      Step s (.state h) .reclaimed s
  | share {s : Store C} {h : Handle} {x : Occupant C} (found : s.find? h = some x)
      (shared : C.sharing x.type = .shared) :
      Step s (.share h) (.ok (x.holders + 1)) (s.write h { x with holders := x.holders + 1 })
  | share_exclusive {s : Store C} {h : Handle} {x : Occupant C} (found : s.find? h = some x)
      (exclusive : C.sharing x.type = .exclusive) :
      Step s (.share h) (.error (.sharingViolation (C.name x.type) "share")) s
  | share_stale {s : Store C} {h : Handle} (stale : s.find? h = none) :
      Step s (.share h) (.error (.useAfterFree h.index h.generation)) s
  | release {s : Store C} {h : Handle} {x : Occupant C} (found : s.find? h = some x)
      (left : x.holders - 1 ≠ 0) :
      Step s (.release h) (.ok false) (s.write h { x with holders := x.holders - 1 })
  | release_last {s : Store C} {h : Handle} {x : Occupant C} (found : s.find? h = some x)
      (last : x.holders - 1 = 0) : Step s (.release h) (.ok true) (s.erase h)
  | release_stale {s : Store C} {h : Handle} (stale : s.find? h = none) :
      Step s (.release h) (.error (.useAfterFree h.index h.generation)) s
  | holders {s : Store C} {h : Handle} :
      Step s (.holders h) ((s.find? h).map Occupant.holders) s
  | live {s : Store C} : Step s .live s.size s

/-- Runs of the store, with their answers. -/
inductive Runs : Store C → HeapLog C → Store C → Prop
  | nil (s : Store C) : Runs s [] s
  | cons {s s' s'' : Store C} {op : HeapOperation C} {a : op.Answer} {log : HeapLog C} :
      Step s op a s' → Runs s' log s'' → Runs s (⟨op, a⟩ :: log) s''

/-! ## Keys -/

variable {s : Store C} {h : Handle} {x y : Occupant C}

theorem mem_entries (found : s.find? h = some x) : h.tenancy ∈ s.entries :=
  Finmap.lookup_isSome.1 (by rw [← find?, found]; rfl)

theorem keys_insert (s : Store C) (t : Tenancy) (x : Occupant C) :
    (s.entries.insert t x).keys = insert t s.entries.keys := by
  ext u
  simp [Finmap.mem_keys]

theorem size_write (found : s.find? h = some x) (y : Occupant C) : (s.write h y).size = s.size := by
  unfold size write
  rw [keys_insert, Finset.insert_eq_self.2 (Finmap.mem_keys.2 (mem_entries found))]

theorem size_erase (found : s.find? h = some x) : (s.erase h).size = s.size - 1 := by
  unfold size erase
  rw [Finmap.keys_erase, Finset.card_erase_of_mem (Finmap.mem_keys.2 (mem_entries found))]

theorem size_issue {t : Tenancy} (new : s.entries.lookup t = none) (o : C.Obj)
    (v : C.Instance o) : (s.issue t o v).size = s.size + 1 := by
  unfold size issue
  rw [keys_insert, Finset.card_insert_of_notMem]
  rw [Finmap.mem_keys]
  exact Finmap.lookup_eq_none.1 new

end Store

/-! ## The store behind a heap -/

namespace Heap

variable {heap heap' : Heap C} {s : Store C} {h k : Handle} {x : Occupant C}

/-- The store has the heap's live instances as its entries, and has issued what the heap has. -/
structure Represents (heap : Heap C) (s : Store C) : Prop where
  wellFormed : heap.WellFormed
  find : ∀ h, s.find? h = heap.occupant? h
  issued : ∀ t, t ∈ s.issued ↔ heap.Issued t
  live : heap.live = s.size

theorem represents_empty : (empty : Heap C).Represents .empty where
  wellFormed := wellFormed_empty
  find h := by simp [Store.find?, Store.empty]
  issued t := by simp [Store.empty, not_issued_empty]
  live := rfl

theorem live_reclaim (heap : Heap C) (h : Handle) : (heap.reclaim h).live = heap.live - 1 := by
  unfold reclaim
  split_ifs <;> rfl

theorem live_allocate {o : C.Obj} {v : C.Instance o} (ha : heap.allocate o v = .ok (k, heap')) :
    heap'.live = heap.live + 1 := by
  obtain ⟨free, -, -, rfl⟩ | ⟨-, -, rfl⟩ := allocate_eq_ok ha <;> rfl

namespace Represents

theorem put (r : heap.Represents s) (live : heap.occupant? h = some x) (y : Occupant C) :
    (heap.put h y).Represents (s.write h y) where
  wellFormed := r.wellFormed.put live y
  find k := by
    rw [occupant?_put live, ← r.find, Store.find?, Store.write]
    split_ifs with e
    · rw [e, Finmap.lookup_insert]
    · exact Finmap.lookup_insert_of_ne _ e
  issued t := by rw [issued_put live, ← r.issued, Store.write]
  live := by
    rw [Store.size_write ((r.find h).trans live), ← r.live]
    rfl

theorem reclaim (r : heap.Represents s) (live : heap.occupant? h = some x) :
    (heap.reclaim h).Represents (s.erase h) where
  wellFormed := r.wellFormed.reclaim live
  find k := by
    rw [occupant?_reclaim live, ← r.find, Store.find?, Store.erase]
    split_ifs with e
    · rw [e, Finmap.lookup_erase]
    · exact Finmap.lookup_erase_ne e
  issued t := by rw [r.wellFormed.issued_reclaim live, ← r.issued, Store.erase]
  live := by rw [live_reclaim, Store.size_erase ((r.find h).trans live), r.live]

/-- A new occupant is a new entry, under a tenancy that was never issued. -/
theorem allocate (r : heap.Represents s) {o : C.Obj} {v : C.Instance o}
    (ha : heap.allocate o v = .ok (k, heap')) : heap'.Represents (s.issue k.tenancy o v) where
  wellFormed := r.wellFormed.allocate ha
  find h := by
    rw [occupant?_allocate r.wellFormed.free_vacant ha, ← r.find, Store.find?, Store.issue]
    split_ifs with e
    · rw [e, Finmap.lookup_insert]
    · exact Finmap.lookup_insert_of_ne _ e
  issued t := by
    rw [r.wellFormed.issued_allocate ha, ← r.issued, Store.issue, List.mem_cons, or_comm]
  live := by
    have new := occupant?_eq_none_of_allocate r.wellFormed.free_vacant ha
    rw [live_allocate ha, Store.size_issue ((r.find k).trans new), r.live]

/-- A heap with an instance has one to count. -/
theorem live_pos (r : heap.Represents s) (live : heap.occupant? h = some x) : 0 < heap.live := by
  rw [r.live]
  exact Finset.card_pos.2 ⟨_, Finmap.mem_keys.2 (Store.mem_entries ((r.find h).trans live))⟩

/-- The heap allocates where the store issues, as long as there are slots to count with. -/
theorem step_allocate (r : heap.Represents s) (o : C.Obj) (v : C.Instance o)
    (fits : heap.FitsOne (.allocate o v)) :
    ∃ s', Store.Step s (.allocate o v) (heap.settle (heap.allocate o v)).1 s' ∧
      (heap.settle (heap.allocate o v)).2.Represents s' := by
  cases ha : heap.allocate o v with
  | ok p =>
    obtain ⟨k, heap'⟩ := p
    have fresh : k.tenancy ∉ s.issued := by
      rw [r.issued]
      exact r.wellFormed.not_issued_of_allocate ha
    have step := Store.Step.allocate (s := s) (o := o) (v := v) fresh
    rw [← identity_of_allocate ha] at step
    exact ⟨_, step, r.allocate ha⟩
  | error e =>
    obtain ⟨-, hfree, hsize⟩ := allocate_eq_error ha
    rcases fits with hf | hf
    · exact absurd hfree hf
    · exact absurd hsize (Nat.not_le_of_lt hf)

/-- The heap gets what the store finds. -/
theorem step_get (r : heap.Represents s) (o : C.Obj) (h : Handle) :
    Store.Step s (.get o h) (heap.get o h) s := by
  cases hx : heap.occupant? h with
  | none =>
    rw [get_of_stale hx]
    exact .get_stale ((r.find h).trans hx)
  | some x =>
    cases hv : x.as? o with
    | none =>
      rw [get_of_wrongType hx hv]
      exact .get_wrongType ((r.find h).trans hx) (Occupant.as?_eq_none_iff.1 hv)
    | some v =>
      rw [get_of_live hx hv]
      rw [Occupant.as?_eq_some_iff.1 hv] at hx
      exact .get ((r.find h).trans hx)

/-- The heap updates what the store finds, and refuses what it refuses. -/
theorem step_overwrite (r : heap.Represents s) (o : C.Obj) (h : Handle) (w : C.Instance o) :
    ∃ s', Store.Step s (.overwrite o h w) (heap.settle (heap.update o (fun _ => w) h)).1 s' ∧
      (heap.settle (heap.update o (fun _ => w) h)).2.Represents s' := by
  cases hx : heap.occupant? h with
  | none =>
    rw [update_of_stale hx]
    exact ⟨s, .overwrite_stale ((r.find h).trans hx), r⟩
  | some x =>
    cases hv : x.as? o with
    | none =>
      rw [update_of_wrongType hx hv]
      exact ⟨s, .overwrite_wrongType ((r.find h).trans hx) (Occupant.as?_eq_none_iff.1 hv), r⟩
    | some v =>
      rw [update_of_live hx hv]
      rw [Occupant.as?_eq_some_iff.1 hv] at hx
      exact ⟨_, .overwrite ((r.find h).trans hx), r.put hx _⟩

theorem step_validate (r : heap.Represents s) (h : Handle) :
    Store.Step s (.validate h) (heap.validate h) s := by
  unfold Heap.validate
  cases hx : heap.occupant? h with
  | none =>
    rw [lookup_of_stale hx]
    exact .validate_stale ((r.find h).trans hx)
  | some x =>
    rw [lookup_of_live hx]
    exact .validate ((r.find h).trans hx)

theorem step_typeName (r : heap.Represents s) (h : Handle) :
    Store.Step s (.typeName h) (heap.typeName h) s := by
  unfold Heap.typeName
  cases hx : heap.occupant? h with
  | none =>
    rw [lookup_of_stale hx]
    exact .typeName_stale ((r.find h).trans hx)
  | some x =>
    rw [lookup_of_live hx]
    exact .typeName ((r.find h).trans hx)

theorem step_state (r : heap.Represents s) (h : Handle) :
    Store.Step s (.state h) (heap.state h) s := by
  unfold Heap.state
  cases hx : heap.occupant? h with
  | none => exact .state_stale ((r.find h).trans hx)
  | some x => exact .state ((r.find h).trans hx)

/-- The heap counts holders as the store does, below the limit. -/
theorem step_share (r : heap.Represents s) (h : Handle) (fits : heap.FitsOne (.share h)) :
    ∃ s', Store.Step s (.share h) (heap.settle (heap.share h)).1 s' ∧
      (heap.settle (heap.share h)).2.Represents s' := by
  cases hx : heap.occupant? h with
  | none =>
    rw [share_of_stale hx]
    exact ⟨s, .share_stale ((r.find h).trans hx), r⟩
  | some x =>
    cases hs : C.sharing x.type with
    | exclusive =>
      rw [share_of_exclusive hx hs]
      exact ⟨s, .share_exclusive ((r.find h).trans hx) hs, r⟩
    | shared =>
      have counted : min (x.holders + 1) holderLimit = x.holders + 1 :=
        Nat.min_eq_left (fits x hx)
      rw [share_of_shared hx hs, counted]
      exact ⟨_, .share ((r.find h).trans hx) hs, r.put hx _⟩

/-- The heap erases an entry when its last holder goes, as the store does. -/
theorem step_release (r : heap.Represents s) (h : Handle) :
    ∃ s', Store.Step s (.release h) (heap.settle (heap.release h)).1 s' ∧
      (heap.settle (heap.release h)).2.Represents s' := by
  cases hx : heap.occupant? h with
  | none =>
    rw [release_of_stale hx]
    exact ⟨s, .release_stale ((r.find h).trans hx), r⟩
  | some x =>
    rcases Nat.eq_zero_or_pos (x.holders - 1) with hn | hn
    · rw [release_of_last hx hn]
      exact ⟨_, .release_last ((r.find h).trans hx) hn, r.reclaim hx⟩
    · rw [release_of_others hx hn]
      exact ⟨_, .release ((r.find h).trans hx) (Nat.ne_of_gt hn), r.put hx _⟩

theorem step_holders (r : heap.Represents s) (h : Handle) :
    Store.Step s (.holders h) (heap.holders? h) s := by
  rw [Heap.holders?, ← r.find]
  exact .holders

theorem step_live (r : heap.Represents s) : Store.Step s .live heap.live s := by
  rw [r.live]
  exact .live

/-- Each operation is a step of the store. -/
theorem step (r : heap.Represents s) (op : HeapOperation C) (fits : heap.FitsOne op) :
    ∃ s', Store.Step s op (heap.perform op).1 s' ∧ (heap.perform op).2.Represents s' := by
  cases op with
  | allocate o v => exact r.step_allocate o v fits
  | get o h => exact ⟨s, r.step_get o h, r⟩
  | overwrite o h v => exact r.step_overwrite o h v
  | validate h => exact ⟨s, r.step_validate h, r⟩
  | typeName h => exact ⟨s, r.step_typeName h, r⟩
  | state h => exact ⟨s, r.step_state h, r⟩
  | share h => exact r.step_share h fits
  | release h => exact r.step_release h
  | holders h => exact ⟨s, r.step_holders h, r⟩
  | live => exact ⟨s, r.step_live, r⟩

/-- The answers of a run are those of a run of the store, by induction on the operations. -/
theorem runs (r : heap.Represents s) (ops : List (HeapOperation C)) (fits : heap.Fits ops) :
    ∃ s', s.Runs (heap.log ops) s' := by
  induction ops generalizing heap s with
  | nil => exact ⟨s, .nil s⟩
  | cons op ops ih =>
    obtain ⟨s', hstep, r'⟩ := r.step op fits.1
    obtain ⟨s'', hruns⟩ := ih r' fits.2
    exact ⟨s'', .cons hstep hruns⟩

end Represents

/-- Behind a heap there is a store as long as operations go on. -/
theorem Evolves.represents {ks : List Handle} (evolves : Evolves heap ks heap')
    (r : heap.Represents s) : ∃ s', heap'.Represents s' := by
  induction evolves with
  | refl => exact ⟨s, r⟩
  | allocate _ ha ih =>
    obtain ⟨s', r'⟩ := ih
    exact ⟨_, r'.allocate ha⟩
  | update _ hu ih =>
    obtain ⟨s', r'⟩ := ih
    obtain ⟨x, live, -, rfl⟩ := update_eq_ok_iff.1 hu
    exact ⟨_, r'.put live _⟩
  | share _ hs ih =>
    obtain ⟨s', r'⟩ := ih
    obtain ⟨x, live, -, -, rfl⟩ := share_eq_ok_iff.1 hs
    exact ⟨_, r'.put live _⟩
  | release _ hr ih =>
    obtain ⟨s', r'⟩ := ih
    obtain ⟨x, live, ⟨-, -, rfl⟩ | ⟨-, -, rfl⟩⟩ := release_eq_ok_iff.1 hr
    · exact ⟨_, r'.put live _⟩
    · exact ⟨_, r'.reclaim live⟩

/-- The answers of any run of operations on the empty heap are those of a store of instances, in
which no tenancy is issued twice and what is released for the last time is gone. -/
theorem log_empty_runs (ops : List (HeapOperation C)) (fits : (empty : Heap C).Fits ops) :
    ∃ s, Store.Runs .empty ((empty : Heap C).log ops) s :=
  represents_empty.runs ops fits

open Gallery in
/-- A slot is used twice, and the handle from its first use and a forged one are tried again. -/
theorem log_empty_runs_reuse :
    let first : Handle := ⟨0, 0, catalog.identity .marker⟩
    let second : Handle := ⟨0, 1, catalog.identity .counter⟩
    let ops : List (HeapOperation catalog) :=
      [.allocate .marker ⟨⟩, .share first, .release first, .allocate .counter ⟨.wrap .i64 5⟩,
        .get .marker first, .share ⟨0, 1, .empty⟩, .overwrite .counter second ⟨.wrap .i64 6⟩,
        .release second, .holders second, .live, .release second, .state second]
    (empty : Heap catalog).Fits ops ∧
      ∃ s, Store.Runs .empty ((empty : Heap catalog).log ops) s := by
  intro first second ops
  have fits : (empty : Heap catalog).Fits ops := by decide
  exact ⟨fits, log_empty_runs ops fits⟩

end Heap

end NativeBridge
