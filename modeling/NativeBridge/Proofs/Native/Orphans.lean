import NativeBridge.Gallery.Exhibit
import NativeBridge.Proofs.Heap.Store
import NativeBridge.Proofs.Native.Keeping

/-!
# Orphans

Setting a return value moves its object into the heap at once, before anyone knows how the call ends.
If the code then sets another value, fails or panics, the host does not get the handle, and nobody
can release the instance. The handles that a call issues and does not return are its
`Invoker.orphans`.

A call returns no object that it has not issued (`Invoker.issued_of_object`), and an instance that it
issues outlasts the call (`Transcript.Leads.live_of_issued`). `Invoker.invoke_live` puts these
together : the live instances grow by the object returned, if there is one, and by the orphans, so the
count goes by what is returned (`Effect.Balanced`) if and only if the call leaves no orphan. It may
leave some (`Invoker.unbalanced_tokens`).
-/

namespace NativeBridge

variable {C : Catalog}

theorem Outcome.value?_eq_some_iff {ε α : Type} {o : Outcome ε α} {a : α} :
    o.value? = some a ↔ o = .ok a := by
  cases o <;> simp [value?]

theorem HostValue.object?_eq_some_iff {v : HostValue} {k : Handle} :
    v.object? = some k ↔ v = .object k := by
  cases v <;> simp [object?]

/-! ## Objects and orphans -/

namespace Invoker

/-- The object that a call returns. -/
def Effect.object? (r : Effect C HostValue) : Option Handle :=
  r.outcome.value?.bind HostValue.object?

/-- The live instances have grown by the object that is returned, if it is one. -/
structure Effect.Balanced (r : Effect C HostValue) (before : Heap C) : Prop where
  object : ∀ k, r.outcome = .ok (.object k) → r.heap.live = before.live + 1
  other : (∀ k, r.outcome ≠ .ok (.object k)) → r.heap.live = before.live

/-- The handles that a call issues and does not return. -/
def orphans (inv : Invoker) (native : NativeFn C) (site : CallSite) (receiver : Option Handle)
    (args : List HostValue) (heap : Heap C) : List Handle :=
  (inv.transcript native site receiver args heap).issued.filter fun k =>
    (inv.invoke native site receiver args heap).object? ≠ some k

end Invoker

/-! ## What becomes of issued handles -/

/-- Code adds the instances that it issues. -/
theorem Transcript.Leads.live {receiver : Option Handle} {a b : Heap C} {t : Transcript C}
    (leads : t.Leads receiver a b) : b.live = a.live + t.issued.length := by
  induction leads with
  | nil heap => rfl
  | @cons a b e t moves _ ih =>
    rw [ih, ← List.singleton_append, issued_append, issued_singleton, List.length_append,
      ← Nat.add_assoc]
    cases moves with
    | still same issued =>
      rw [same, issued]
      rfl
    | changed _ update issued =>
      obtain ⟨x, -, -, heap⟩ := Heap.update_eq_ok_iff.1 update
      rw [heap, issued]
      rfl
    | issued allocate issued =>
      rw [Heap.live_allocate allocate, issued]
      rfl

/-- What is issued is there in the end. By induction on the transcript : once an instance is there, it
stays. -/
theorem Transcript.Leads.occupied_of_issued {receiver : Option Handle} {a b : Heap C}
    {t : Transcript C} {k : Handle} (leads : t.Leads receiver a b) (wf : a.WellFormed)
    (issued : k ∈ t.issued) : ∃ x, b.occupant? k = some x := by
  induction leads with
  | nil heap => simp [Transcript.issued] at issued
  | @cons a b e t moves rest ih =>
    have first : Transcript.Leads receiver a [e] e.after.heap := .cons moves (.nil _)
    have wf' := first.evolves.wellFormed wf
    rw [← List.singleton_append, issued_append, issued_singleton, List.mem_append,
      Option.mem_toList] at issued
    rcases issued with now | later
    · cases moves with
      | still _ none | changed _ _ none => simp [none] at now
      | issued allocate named =>
        obtain rfl : _ = k := Option.some.inj (named.symm.trans now)
        have live := (Heap.occupant?_allocate wf.free_vacant allocate _).trans (if_pos rfl)
        obtain ⟨y, kept, -⟩ := (rest.conduct wf').kept _ _ live
        exact ⟨y, kept⟩
    · exact ih wf' later

/-- A handle that is issued was stale before, and has one holder in the end. -/
theorem Transcript.Leads.live_of_issued {receiver : Option Handle} {a b : Heap C} {t : Transcript C}
    {k : Handle} (leads : t.Leads receiver a b) (wf : a.WellFormed) (issued : k ∈ t.issued) :
    a.occupant? k = none ∧ ∃ x, b.occupant? k = some x ∧ x.holders = 1 := by
  have stale : a.occupant? k = none := by
    by_contra lived
    obtain ⟨x, before⟩ := Option.ne_none_iff_exists'.1 lived
    exact leads.evolves.fresh wf issued (wf.issued_of_live before)
  obtain ⟨x, live⟩ := leads.occupied_of_issued wf issued
  exact ⟨stale, x, live, leads.holders_of_new wf stale live⟩

/-! ## Calls -/

namespace Invoker

variable {inv : Invoker} {native : NativeFn C} {site : CallSite} {receiver : Option Handle}
  {args : List HostValue} {heap : Heap C} {k : Handle}

theorem mem_orphans :
    k ∈ inv.orphans native site receiver args heap ↔
      k ∈ (inv.transcript native site receiver args heap).issued ∧
        (inv.invoke native site receiver args heap).object? ≠ some k := by
  simp [orphans]

theorem Effect.object?_eq_some_iff {r : Effect C HostValue} :
    r.object? = some k ↔ r.outcome = .ok (.object k) := by
  rw [object?, Option.bind_eq_some_iff]
  simp [Outcome.value?_eq_some_iff, HostValue.object?_eq_some_iff]

/-- A call issues the object that it returns, and its orphans. -/
theorem mem_issued_iff :
    k ∈ (inv.transcript native site receiver args heap).issued ↔
      (inv.invoke native site receiver args heap).object? = some k ∨
        k ∈ inv.orphans native site receiver args heap := by
  rw [mem_orphans]
  refine ⟨fun issued => or_iff_not_imp_left.2 fun other => ⟨issued, other⟩, ?_⟩
  rintro (returned | ⟨issued, -⟩)
  · exact issued_of_object (Effect.object?_eq_some_iff.1 returned)
  · exact issued

/-- What was issued is returned or orphaned. -/
theorem length_issued (wf : heap.WellFormed) :
    (inv.transcript native site receiver args heap).issued.length =
      (inv.invoke native site receiver args heap).object?.toList.length +
        (inv.orphans native site receiver args heap).length := by
  have distinct : (inv.transcript native site receiver args heap).issued.Nodup :=
    ((inv.invoke_leads native site receiver args heap).evolves.nodup wf).of_map
  rw [orphans]
  cases returned : (inv.invoke native site receiver args heap).object? with
  | none => simp
  | some k =>
    have mem := issued_of_object (Effect.object?_eq_some_iff.1 returned)
    have others : (inv.transcript native site receiver args heap).issued.filter
        (fun j => some k ≠ some j) =
          (inv.transcript native site receiver args heap).issued.erase k := by
      rw [distinct.erase_eq_filter]
      refine List.filter_congr fun j _ => ?_
      by_cases same : j = k
      · simp [same]
      · simp [same, Ne.symm same]
    have positive := List.length_pos_of_mem mem
    rw [others, List.length_erase_of_mem mem, Option.toList_some, List.length_singleton]
    omega

/-- The number of live instances goes by the object returned if and only if nothing else has been
added. -/
theorem Effect.balanced_iff {r : Effect C HostValue} {n : Nat}
    (live : r.heap.live = heap.live + r.object?.toList.length + n) : r.Balanced heap ↔ n = 0 := by
  cases returned : r.object? with
  | none =>
    have other : ∀ k, r.outcome ≠ .ok (.object k) := by
      intro k ok
      rw [Effect.object?_eq_some_iff.2 ok] at returned
      cases returned
    rw [returned, Option.toList_none, List.length_nil] at live
    refine ⟨fun balanced => ?_, fun zero => ⟨fun k ok => absurd ok (other k), fun _ => ?_⟩⟩
    · have same := balanced.other other
      omega
    · omega
  | some k =>
    have ok := Effect.object?_eq_some_iff.1 returned
    rw [returned, Option.toList_some, List.length_singleton] at live
    refine ⟨fun balanced => ?_, fun zero => ⟨fun _ _ => ?_, fun other => absurd ok (other k)⟩⟩
    · have more := balanced.object k ok
      omega
    · omega

/-- A call adds the object that it returns, if it returns one, and its orphans : the instances that
are live after it and were not before are these, and each of them has one holder. So the number of
live instances goes by what is returned if and only if there are no orphans. -/
theorem invoke_live (inv : Invoker) (native : NativeFn C) (site : CallSite)
    (receiver : Option Handle) (args : List HostValue) (heap : Heap C)
    (reachable : heap.Reachable) :
    let r := inv.invoke native site receiver args heap
    let orphans := inv.orphans native site receiver args heap
    r.heap.live = heap.live + r.object?.toList.length + orphans.length ∧
      (r.Balanced heap ↔ orphans = []) ∧
      (∀ h, heap.occupant? h = none →
        ((∃ x, r.heap.occupant? h = some x) ↔
          ∃ k, (r.object? = some k ∨ k ∈ orphans) ∧ k.tenancy = h.tenancy)) ∧
      ∀ k, r.object? = some k ∨ k ∈ orphans →
        heap.occupant? k = none ∧ ∃ x, r.heap.occupant? k = some x ∧ x.holders = 1 := by
  intro r orphans
  have wf := reachable.wellFormed
  have leads := inv.invoke_leads native site receiver args heap
  have live : r.heap.live = heap.live + r.object?.toList.length + orphans.length := by
    rw [leads.live, length_issued wf, Nat.add_assoc]
  have made : ∀ k, r.object? = some k ∨ k ∈ orphans →
      heap.occupant? k = none ∧ ∃ x, r.heap.occupant? k = some x ∧ x.holders = 1 :=
    fun k new => leads.live_of_issued wf (mem_issued_iff.2 new)
  refine ⟨live, ?_, fun h stale => ⟨?_, ?_⟩, made⟩
  · rw [Effect.balanced_iff live, List.length_eq_zero_iff]
  · rintro ⟨x, lives⟩
    obtain ⟨k, issued, same⟩ := (leads.conduct wf).issued h x stale lives
    exact ⟨k, mem_issued_iff.1 issued, same⟩
  · rintro ⟨k, new, same⟩
    obtain ⟨x, lives, -⟩ := (made k new).2
    exact ⟨x, (Heap.occupant?_congr _ same).symm.trans lives⟩

open Gallery Native in
/-- Where a counter has gone, code makes a token and then a counter : the counter is returned, in a
new slot, and the token is left where the old counter was. -/
theorem invoke_live_replaced :
    let heap : Heap catalog := ⟨#[⟨1, none⟩], [0], 0⟩
    let code : Native catalog Unit := do
      setReturn (.object .token) ⟨.wrap .i64 7⟩
      setReturn (.object .counter) ⟨.wrap .i64 5⟩
    let inv : Invoker := ⟨.widening, true⟩
    let r := inv.invoke ⟨.empty, code⟩ (.function "replace" []) none [] heap
    let token : Handle := ⟨0, 1, catalog.identity .token⟩
    heap.Reachable ∧ r.object? = some ⟨1, 0, catalog.identity .counter⟩ ∧
      r.heap.live = heap.live + 2 ∧ ¬r.Balanced heap ∧
      ∃ x, r.heap.occupant? token = some x ∧ x.holders = 1 := by
  intro heap code inv r token
  have allocate : Heap.allocate (C := catalog) .counter ⟨.wrap .i64 5⟩ .empty =
      .ok (⟨0, 0, catalog.identity .counter⟩,
        ⟨#[⟨0, some ⟨.counter, ⟨.wrap .i64 5⟩, 1, false⟩⟩], [], 1⟩) := rfl
  have release : Heap.release (C := catalog)
      ⟨#[⟨0, some ⟨.counter, ⟨.wrap .i64 5⟩, 1, false⟩⟩], [], 1⟩ ⟨0, 0, .empty⟩ =
      .ok (true, heap) := rfl
  have reachable : heap.Reachable := ⟨_, .release (.allocate (.refl .empty) allocate) release⟩
  have returned : r.object? = some ⟨1, 0, catalog.identity .counter⟩ := rfl
  have orphan : token ∈ inv.orphans ⟨.empty, code⟩ (.function "replace" []) none [] heap := by
    refine mem_orphans.2 ⟨List.mem_cons_self .., ?_⟩
    rw [show (inv.invoke _ _ _ _ heap).object? = _ from returned]
    intro same
    cases congrArg (Option.map Handle.index) same
  obtain ⟨live, balanced, -, made⟩ := inv.invoke_live ⟨.empty, code⟩ _ none [] heap reachable
  refine ⟨reachable, returned, rfl, fun even => ?_, (made token (Or.inr orphan)).2⟩
  rw [balanced.1 even] at orphan
  cases orphan

open Gallery Native in
/-- A token is made by code that then makes another, returns a number, fails, or panics : the token
stays. -/
theorem unbalanced_tokens :
    let token (n : Int) : Native catalog Unit := setReturn (.object .token) ⟨.wrap .i64 n⟩
    let run (code : Native catalog Unit) : Effect catalog HostValue :=
      Invoker.invoke ⟨.widening, true⟩ ⟨.empty, code⟩ (.function "spill" []) none [] .empty
    let twice := run (do token 1; token 2)
    let number := run (do token 1; setReturn (.int .i64) (.wrap .i64 5))
    let failing := run (do token 1; fail (.failed "no"))
    let panicking := run (do token 1; panic (.message "boom"))
    (twice.outcome = .ok (.object ⟨1, 0, catalog.identity .token⟩) ∧ twice.heap.live = 2) ∧
      (number.outcome = .ok (.int (.wrap .i64 5)) ∧ number.heap.live = 1) ∧
      (failing.outcome = .error (.nativeFailure "spill()" "no") ∧ failing.heap.live = 1) ∧
      (panicking.outcome = .error (.nativeFailure "spill()" "native function panicked: boom") ∧
        panicking.heap.live = 1) ∧
      ∀ r ∈ [twice, number, failing, panicking], ¬r.Balanced .empty := by
  intro token run twice number failing panicking
  have returned : twice.outcome = .ok (.object ⟨1, 0, catalog.identity .token⟩) := rfl
  refine ⟨⟨returned, rfl⟩, ⟨rfl, rfl⟩, ⟨rfl, rfl⟩, ⟨by decide +kernel, rfl⟩, ?_⟩
  simp only [List.forall_mem_cons, List.not_mem_nil, false_imp_iff, implies_true, and_true]
  refine ⟨fun balanced => ?_, fun balanced => ?_, fun balanced => ?_, fun balanced => ?_⟩
  · exact absurd (balanced.object _ returned) (by decide)
  · exact absurd (balanced.other (by rintro k ⟨⟩)) (by decide)
  · exact absurd (balanced.other (by rintro k ⟨⟩)) (by decide)
  · exact absurd (balanced.other (by rintro k ⟨⟩)) (by decide)

end Invoker

end NativeBridge
