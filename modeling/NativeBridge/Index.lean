/-!
# Indexes

An `Index` finds the place of a key without a search through what is indexed. It is kept beside lists
that only grow : what is added at the end of a list is entered with its place, and the places before
it stay what they were. `Index.Inverts` says that an index and its list agree : a key is found at a
place if and only if the place has that key, so no two places have the same.
-/

namespace NativeBridge

/-- Places by key. A later entry of a key hides the earlier one. -/
structure Index (κ π : Type) where
  entries : List (κ × π) := []

namespace Index

variable {κ π α : Type}

section Rows

variable {key : α → κ} {rows : List α} {i : Nat}

/-- The key of a place in a list. -/
def keyAt (key : α → κ) (rows : List α) (i : Nat) : Option κ := rows[i]?.map key

theorem keyAt_concat (a : α) :
    keyAt key (rows ++ [a]) i = if i = rows.length then some (key a) else keyAt key rows i := by
  unfold keyAt
  split
  · next last => simp [last]
  · next other =>
    rcases Nat.lt_or_gt_of_ne other with inside | outside
    · rw [List.getElem?_append_left inside]
    · rw [List.getElem?_eq_none (by simp; omega), List.getElem?_eq_none (by omega)]

theorem keyAt_length : keyAt key rows rows.length = none := by
  simp [keyAt]

end Rows

variable [DecidableEq κ]

/-- The place of a key. -/
def find? (ix : Index κ π) (k : κ) : Option π := ix.entries.lookup k

def insert (ix : Index κ π) (k : κ) (p : π) : Index κ π := ⟨(k, p) :: ix.entries⟩

@[simp] theorem find?_empty (k : κ) : (⟨[]⟩ : Index κ π).find? k = none := rfl

theorem find?_insert (ix : Index κ π) (k k' : κ) (p : π) :
    (ix.insert k p).find? k' = if k' = k then some p else ix.find? k' := by
  unfold find? insert
  by_cases same : k' = k
  · simp [same]
  · rw [List.lookup_cons, beq_false_of_ne same, if_neg same]

/-- The element of a list that stands at the place of a key. -/
def row? (ix : Index κ Nat) (rows : List α) (k : κ) : Option α := (ix.find? k).bind (rows[·]?)

/-- The index finds a key at the places that have it. -/
def Inverts (ix : Index κ π) (key : π → Option κ) : Prop :=
  ∀ k p, ix.find? k = some p ↔ key p = some k

namespace Inverts

theorem empty : (⟨[]⟩ : Index κ π).Inverts fun _ => none := by
  intro k p
  simp

section Places

variable {ix : Index κ π} {key key' : π → Option κ} {k : κ} {p : π}

theorem congr (inverts : ix.Inverts key) (same : ∀ p, key' p = key p) : ix.Inverts key' := by
  intro k p
  rw [same]
  exact inverts k p

/-- A new key gets a new place. -/
theorem insert (inverts : ix.Inverts key) (free : ix.find? k = none) (unplaced : key p = none)
    (here : key' p = some k) (others : ∀ q, q ≠ p → key' q = key q) :
    (ix.insert k p).Inverts key' := by
  intro k' q
  rw [find?_insert]
  by_cases place : q = p
  · subst place
    rw [here]
    by_cases same : k' = k
    · simp [same]
    · have elsewhere : ix.find? k' ≠ some q := by
        rw [Ne, inverts, unplaced]
        nofun
      simp [same, elsewhere, Ne.symm same]
  · rw [others q place, ← inverts]
    by_cases same : k' = k
    · simp [same, free, Ne.symm place]
    · simp [same]

end Places

/-! ## Lists that grow -/

section Rows

variable {ix : Index κ Nat} {key : α → κ} {rows : List α} {k : κ} {i : Nat} {a : α}

/-- What is added at the end gets the place after the last. -/
theorem concat (inverts : ix.Inverts (keyAt key rows)) (free : ix.find? (key a) = none) :
    (ix.insert (key a) rows.length).Inverts (keyAt key (rows ++ [a])) :=
  inverts.insert free keyAt_length (by rw [keyAt_concat, if_pos rfl])
    fun i other => by rw [keyAt_concat, if_neg other]

/-- Places found are places of the list. -/
theorem lt_length (inverts : ix.Inverts (keyAt key rows)) (found : ix.find? k = some i) :
    i < rows.length := by
  have placed := (inverts k i).1 found
  unfold keyAt at placed
  obtain ⟨a, there, -⟩ := Option.map_eq_some_iff.1 placed
  exact (List.getElem?_eq_some_iff.1 there).1

/-- An element may change if its key does not. -/
theorem set (inverts : ix.Inverts (keyAt key rows)) (inside : i < rows.length)
    (same : key a = key (rows.get ⟨i, inside⟩)) : ix.Inverts (keyAt key (rows.set i a)) := by
  refine inverts.congr fun j => ?_
  unfold keyAt
  by_cases here : i = j
  · subst here
    rw [List.getElem?_set_self inside, List.getElem?_eq_getElem inside, Option.map_some,
      Option.map_some, same]
    rfl
  · rw [List.getElem?_set_ne here]

end Rows

end Inverts

end Index

end NativeBridge
