import NativeBridge.Catalog
import NativeBridge.Error.Binding
import NativeBridge.Value

/-!
# The instance heap

The heap owns every native instance that the host can reach. A slot holds at most one instance, its
occupant, and counts in its generation how often it has been vacated. A handle reaches the occupant of
its slot only while the generations agree (`occupant?`), so a handle to a reclaimed instance stays
dead when the slot is used again. The identity in a handle plays no part here.

An instance starts with one holder. Holders are added to shared instances only (`share`); when the
last one goes (`release`) the instance is reclaimed, the slot moves to its next generation and is free
for another instance, unless it has reached its last generation: then it is retired. Free slots are
used before new ones are added, the one freed last first.
-/

namespace NativeBridge

/-- What may be said about the instance behind a handle. -/
inductive Lifecycle
  /-- Live and untouched since it was made. -/
  | constructed
  /-- Live, and native code has had it for changing. -/
  | mutated
  | reclaimed
  deriving DecidableEq

def Lifecycle.shown : Lifecycle → String
  | constructed => "Constructed"
  | mutated => "Mutated"
  | reclaimed => "Reclaimed"

/-- A live instance with its holders. -/
structure Occupant (C : Catalog) where
  type : C.Obj
  value : C.Instance type
  holders : Nat
  mutated : Bool

namespace Occupant

variable {C : Catalog}

/-- The instance, if it is of the given type. -/
def as? (x : Occupant C) (o : C.Obj) : Option (C.Instance o) :=
  if h : x.type = o then some (h ▸ x.value) else none

def state (x : Occupant C) : Lifecycle := if x.mutated then .mutated else .constructed

end Occupant

/-- A place for one instance at a time. -/
structure Slot (C : Catalog) where
  /-- How often the slot has been vacated. -/
  generation : Nat
  occupant : Option (Occupant C)

/-- All slots, the indices of the free ones, and the number of live instances. -/
structure Heap (C : Catalog) where
  slots : Array (Slot C) := #[]
  free : List Nat := []
  live : Nat := 0

namespace Heap

variable {C : Catalog}

/-- The heap without slots. -/
def empty : Heap C := {}

instance : Inhabited (Heap C) := ⟨empty⟩

/-- Most slots a heap can have. -/
def slotLimit : Nat := UInt32.size

/-- The generation that a slot never leaves. -/
def lastGeneration : Nat := UInt32.size - 1

/-- Most holders that are counted. -/
def holderLimit : Nat := UInt32.size - 1

/-- The live instance a handle names. -/
def occupant? (heap : Heap C) (h : Handle) : Option (Occupant C) :=
  match heap.slots[h.index]? with
  | some slot => if slot.generation = h.generation then slot.occupant else none
  | none => none

/-- The live instance a handle names, or the error of a stale handle. -/
def lookup (heap : Heap C) (h : Handle) : Except ConversionError (Occupant C) :=
  match heap.occupant? h with
  | some x => .ok x
  | none => .error (.staleHandle h.index h.generation)

/-- The handle names a live instance. -/
def validate (heap : Heap C) (h : Handle) : Except ConversionError Unit :=
  (heap.lookup h).map fun _ => ()

/-- Exposed name of the type of a live instance. -/
def typeName (heap : Heap C) (h : Handle) : Except ConversionError String :=
  (heap.lookup h).map fun x => C.name x.type

def state (heap : Heap C) (h : Handle) : Lifecycle :=
  ((heap.occupant? h).map Occupant.state).getD .reclaimed

/-- Number of holders of a live instance. -/
def holders? (heap : Heap C) (h : Handle) : Option Nat :=
  (heap.occupant? h).map Occupant.holders

/-- Puts an instance into the slot of a handle. -/
def put (heap : Heap C) (h : Handle) (x : Occupant C) : Heap C :=
  { heap with slots := heap.slots.setIfInBounds h.index ⟨h.generation, some x⟩ }

/-- Generation of a slot. -/
def generationAt (heap : Heap C) (index : Nat) : Nat :=
  (heap.slots[index]?.map Slot.generation).getD 0

/-- Moves an instance into the heap. It has one holder, who gets the handle. -/
def allocate (o : C.Obj) (value : C.Instance o) (heap : Heap C) :
    Except ConversionError (Handle × Heap C) :=
  let x : Occupant C := ⟨o, value, 1, false⟩
  match heap.free with
  | index :: free =>
    let generation := heap.generationAt index
    .ok (⟨index, generation, C.identity o⟩,
      { slots := heap.slots.setIfInBounds index ⟨generation, some x⟩, free, live := heap.live + 1 })
  | [] =>
    if heap.slots.size < slotLimit then
      .ok (⟨heap.slots.size, 0, C.identity o⟩,
        { slots := heap.slots.push ⟨0, some x⟩, free := [], live := heap.live + 1 })
    else .error .heapExhausted

/-- The error of an instance that is not of the wanted type. -/
def wrongType (o : C.Obj) (x : Occupant C) : ConversionError :=
  .typeMismatch (C.name o) (C.name x.type)

/-- The instance behind a handle, as an instance of `o`. -/
def get (o : C.Obj) (heap : Heap C) (h : Handle) : Except ConversionError (C.Instance o) := do
  let x ← heap.lookup h
  match x.as? o with
  | some value => .ok value
  | none => .error (wrongType o x)

/-- Changes the instance behind a handle, which counts as mutated from then on. The result is the
instance as it was before. -/
def update (o : C.Obj) (change : C.Instance o → C.Instance o) (heap : Heap C) (h : Handle) :
    Except ConversionError (C.Instance o × Heap C) := do
  let x ← heap.lookup h
  match x.as? o with
  | some value => .ok (value, heap.put h ⟨o, change value, x.holders, true⟩)
  | none => .error (wrongType o x)

/-- Adds a holder to a shared instance. The result is the number of holders. -/
def share (heap : Heap C) (h : Handle) : Except BindingError (Nat × Heap C) :=
  match heap.occupant? h with
  | none => .error (.useAfterFree h.index h.generation)
  | some x =>
    match C.sharing x.type with
    | .exclusive => .error (.sharingViolation (C.name x.type) "share")
    | .shared =>
      let holders := min (x.holders + 1) holderLimit
      .ok (holders, heap.put h { x with holders })

/-- Drops the instance in the slot of a handle and frees the slot for its next generation. -/
def reclaim (heap : Heap C) (h : Handle) : Heap C :=
  if h.generation < lastGeneration then
    { slots := heap.slots.setIfInBounds h.index ⟨h.generation + 1, none⟩
      free := h.index :: heap.free
      live := heap.live - 1 }
  else
    { heap with
      slots := heap.slots.setIfInBounds h.index ⟨h.generation, none⟩
      live := heap.live - 1 }

/-- Takes a holder away. The result tells whether the instance was reclaimed with it. -/
def release (heap : Heap C) (h : Handle) : Except BindingError (Bool × Heap C) :=
  match heap.occupant? h with
  | none => .error (.useAfterFree h.index h.generation)
  | some x =>
    let holders := x.holders - 1
    if 0 < holders then .ok (false, heap.put h { x with holders })
    else .ok (true, heap.reclaim h)

/-- Sizes of the heap. -/
def shown (heap : Heap C) : String :=
  Text.record "ObjectHeap"
    [("slot_count", toString heap.slots.size), ("free_count", toString heap.free.length),
      ("live", toString heap.live)]

end Heap

end NativeBridge
