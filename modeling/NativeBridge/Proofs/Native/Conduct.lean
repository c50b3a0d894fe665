import NativeBridge.Gallery.Exhibit
import NativeBridge.Proofs.Native.Transcript

/-!
# What a call may do to the heap

Native code reaches the heap through its frame only, so whatever it does, there is much that a call
cannot do. `Heap.Conduct` says what is left, given the receiver and the transcript of the call :
instances that were live stay live, with their type and their holders; only the receiver's instance
can change, and only if the code has got it for changing; and every new instance is the object of a
return value that the code has set.

`Invoker.invoke_conduct` : every call of every native code conducts itself like this. The exchanges
of its transcript do one by one (`Exchange.Moves.conduct`), and good conduct composes
(`Heap.Conduct.append`).
-/

namespace NativeBridge

variable {C : Catalog}

/-- What a call with the given receiver and transcript may make of a heap. -/
structure Heap.Conduct (receiver : Option Handle) (t : Transcript C) (before after : Heap C) :
    Prop where
  /-- Nothing is reclaimed or retyped, and no holders come or go. -/
  kept : ∀ h x, before.occupant? h = some x →
    ∃ y, after.occupant? h = some y ∧ y.type = x.type ∧ y.holders = x.holders
  /-- Instances other than the receiver's stay as they are. -/
  others : ∀ h x, before.occupant? h = some x → (∀ r ∈ receiver, r.tenancy ≠ h.tenancy) →
    after.occupant? h = some x
  /-- No instance changes unless the code has got its receiver for changing. -/
  untouched : t.changes = false → ∀ h x, before.occupant? h = some x → after.occupant? h = some x
  /-- A receiver got for changing counts as mutated. -/
  mutated : t.changes = true → ∃ r ∈ receiver, after.state r = .mutated
  /-- New instances are objects of return values. -/
  issued : ∀ h x, before.occupant? h = none → after.occupant? h = some x →
    ∃ k ∈ t.issued, k.tenancy = h.tenancy

namespace Heap

variable {receiver : Option Handle} {t u : Transcript C} {e : Exchange C} {a b c heap : Heap C}

theorem state_of_live {h : Handle} {x : Occupant C} (live : heap.occupant? h = some x) :
    heap.state h = x.state := by
  rw [state, live]
  rfl

theorem state_of_stale {h : Handle} (stale : heap.occupant? h = none) :
    heap.state h = .reclaimed := by
  rw [state, stale]
  rfl

/-- A mutated instance is a live one. -/
theorem live_of_state {h : Handle} (mutated : heap.state h = .mutated) :
    ∃ x, heap.occupant? h = some x := by
  cases hx : heap.occupant? h with
  | none =>
    rw [state_of_stale hx] at mutated
    cases mutated
  | some x => exact ⟨x, rfl⟩

namespace Conduct

theorem refl (receiver : Option Handle) (heap : Heap C) : Conduct receiver [] heap heap where
  kept h x live := ⟨x, live, rfl, rfl⟩
  others h x live _ := live
  untouched _ h x live := live
  mutated changes := by cases changes
  issued h x stale live := by
    rw [stale] at live
    cases live

/-- Good conduct composes. A receiver mutated by the first part is still so after the second, which
leaves it alone or mutates it again. -/
theorem append (first : Conduct receiver t a b) (second : Conduct receiver u b c) :
    Conduct receiver (t ++ u) a c where
  kept h x live := by
    obtain ⟨y, live, type, holders⟩ := first.kept h x live
    obtain ⟨z, live, type', holders'⟩ := second.kept h y live
    exact ⟨z, live, type'.trans type, holders'.trans holders⟩
  others h x live other := second.others h x (first.others h x live other) other
  untouched changes h x live := by
    obtain ⟨ht, hu⟩ : t.changes = false ∧ u.changes = false := by
      simpa using changes
    exact second.untouched hu h x (first.untouched ht h x live)
  mutated changes := by
    cases hu : u.changes with
    | true => exact second.mutated hu
    | false =>
      have ht : t.changes = true := by
        simpa [hu] using changes
      obtain ⟨r, hr, state⟩ := first.mutated ht
      obtain ⟨x, live⟩ := live_of_state state
      refine ⟨r, hr, ?_⟩
      rw [state_of_live (second.untouched hu r x live), ← state_of_live live, state]
  issued h x stale live := by
    rw [Transcript.issued_append]
    cases hb : b.occupant? h with
    | none =>
      obtain ⟨k, hk, same⟩ := second.issued h x hb live
      exact ⟨k, List.mem_append_right _ hk, same⟩
    | some y =>
      obtain ⟨k, hk, same⟩ := first.issued h y stale hb
      exact ⟨k, List.mem_append_left _ hk, same⟩

end Conduct

end Heap

namespace Exchange.Moves

variable {receiver : Option Handle} {heap : Heap C} {e : Exchange C}

theorem conduct_of_still (same : e.after.heap = heap) (changes : e.changes = false) :
    heap.Conduct receiver [e] e.after.heap where
  kept h x live := ⟨x, same ▸ live, rfl, rfl⟩
  others h x live _ := same ▸ live
  untouched _ h x live := same ▸ live
  mutated changed := by simp [changes] at changed
  issued h x stale live := by
    rw [same, stale] at live
    cases live

/-- The one instance that an exchange may change is the receiver. -/
theorem conduct_of_changed {o : C.Obj} {change : C.Instance o → C.Instance o} {r : Handle}
    {v : C.Instance o} (named : receiver = some r)
    (update : heap.update o change r = .ok (v, e.after.heap)) (changes : e.changes = true) :
    heap.Conduct receiver [e] e.after.heap := by
  obtain ⟨x, live, typed, heap'⟩ := Heap.update_eq_ok_iff.1 update
  have type : x.type = o := congrArg Occupant.type (Occupant.as?_eq_some_iff.1 typed)
  have view := Heap.occupant?_put live ⟨o, change v, x.holders, true⟩
  rw [← heap'] at view
  refine ⟨?_, ?_, ?_, ?_, ?_⟩
  · intro h y hy
    by_cases same : h.tenancy = r.tenancy
    · rw [Heap.occupant?_congr heap same, live] at hy
      cases hy
      exact ⟨_, (view h).trans (if_pos same), type.symm, rfl⟩
    · exact ⟨y, ((view h).trans (if_neg same)).trans hy, rfl, rfl⟩
  · intro h y hy other
    have different : h.tenancy ≠ r.tenancy := fun same => other r named same.symm
    exact ((view h).trans (if_neg different)).trans hy
  · intro unchanged
    simp [changes] at unchanged
  · intro _
    exact ⟨r, named, Heap.state_of_live ((view r).trans (if_pos rfl))⟩
  · intro h y stale hy
    have different : h.tenancy ≠ r.tenancy := by
      intro same
      rw [Heap.occupant?_congr heap same, live] at stale
      cases stale
    rw [view, if_neg different, stale] at hy
    cases hy

/-- An allocation opens a tenancy that was not live. -/
theorem conduct_of_issued (wf : heap.WellFormed) {o : C.Obj} {v : C.Instance o} {k : Handle}
    (allocate : heap.allocate o v = .ok (k, e.after.heap)) (issued : e.issued? = some k)
    (changes : e.changes = false) : heap.Conduct receiver [e] e.after.heap := by
  have view := Heap.occupant?_allocate wf.free_vacant allocate
  have kept : ∀ h x, heap.occupant? h = some x → e.after.heap.occupant? h = some x := by
    intro h x live
    rw [view, if_neg]
    · exact live
    · intro same
      rw [Heap.occupant?_congr heap same,
        Heap.occupant?_eq_none_of_allocate wf.free_vacant allocate] at live
      cases live
  refine ⟨?_, ?_, ?_, ?_, ?_⟩
  · exact fun h x live => ⟨x, kept h x live, rfl, rfl⟩
  · exact fun h x live _ => kept h x live
  · exact fun _ => kept
  · intro changed
    simp [changes] at changed
  · intro h x stale live
    by_cases same : h.tenancy = k.tenancy
    · exact ⟨k, by simp [issued], same.symm⟩
    · rw [view, if_neg same, stale] at live
      cases live

/-- A single exchange conducts itself well. -/
theorem conduct (moves : e.Moves receiver heap) (wf : heap.WellFormed) :
    heap.Conduct receiver [e] e.after.heap := by
  cases moves with
  | still same _ changes => exact conduct_of_still same changes
  | changed named update _ changes => exact conduct_of_changed named update changes
  | issued allocate issued changes => exact conduct_of_issued wf allocate issued changes

end Exchange.Moves

/-- By induction on the transcript. The free slots stay vacant, so that each allocation opens a new
tenancy. -/
theorem Transcript.Leads.conduct {receiver : Option Handle} {a b : Heap C} {t : Transcript C}
    (leads : t.Leads receiver a b) (wf : a.WellFormed) : a.Conduct receiver t b := by
  induction leads with
  | nil heap => exact .refl receiver heap
  | cons moves _ ih =>
    have first : Transcript.Leads receiver _ [_] _ := .cons moves (.nil _)
    exact (moves.conduct wf).append (ih (first.evolves.wellFormed wf))

namespace Invoker

/-- Every call of every native code conducts itself well, however it ends. -/
theorem invoke_conduct (inv : Invoker) (native : NativeFn C) (site : CallSite)
    (receiver : Option Handle) (args : List HostValue) (heap : Heap C)
    (reachable : heap.Reachable) :
    heap.Conduct receiver (inv.transcript native site receiver args heap)
      (inv.invoke native site receiver args heap).heap :=
  (inv.invoke_leads native site receiver args heap).conduct reachable.wellFormed

open Gallery Native in
/-- A counter that is its own argument is changed, a token is handed out, and then the code
panics. -/
theorem invoke_conduct_panic :
    let heap : Heap catalog := ⟨#[⟨0, some ⟨.counter, ⟨.wrap .i64 5⟩, 1, false⟩⟩], [], 1⟩
    let counter : Handle := ⟨0, 0, .empty⟩
    let code : Native catalog Unit := do
      let c ← arg (C := catalog) 0 (.object .counter)
      let _ ← thisMut (C := catalog) .counter fun _ => ⟨.wrap .i64 (c.count.val + 1)⟩
      setReturn (.object .token) ⟨.wrap .i64 7⟩
      panic .other
    let inv : Invoker := ⟨.widening, true⟩
    let site := CallSite.method "Counter" "spill" [⟨"other", .object "Counter"⟩]
    let t := inv.transcript ⟨.empty, code⟩ site (some counter) [.object counter] heap
    heap.Reachable ∧ t.changes = true ∧ heap.Conduct (some counter) t
      (inv.invoke ⟨.empty, code⟩ site (some counter) [.object counter] heap).heap := by
  intro heap counter code inv site t
  have allocate : Heap.allocate (C := catalog) .counter ⟨.wrap .i64 5⟩ .empty =
      .ok (⟨0, 0, catalog.identity .counter⟩, heap) := rfl
  have reachable : heap.Reachable := ⟨_, .allocate (.refl .empty) allocate⟩
  exact ⟨reachable, rfl, inv.invoke_conduct _ site _ _ heap reachable⟩

end Invoker

end NativeBridge
