import NativeBridge.Proofs.Native.Conduct

/-!
# What comes of the instances of a heap

An instance that is live after a step was live before, with the same type and as many holders, or
it is a new one with one holder : `Heap.Keeps` says so of one handle. Allocations keep every handle,
and so do calls of native code (`Transcript.Leads.keeps`), even if what they have issued is released
again; shares and releases keep the handles of other tenancies.

An object that a call returns has been issued by that very call (`Invoker.issued_of_object`).
-/

namespace NativeBridge

variable {C : Catalog}

/-! ## Instances that stay and instances that come -/

/-- If the handle reaches an instance, then it did so before, and the instance has the type and the
holders that it had, or its tenancy is a new one. -/
def Heap.Keeps (a b : Heap C) (h : Handle) : Prop :=
  ∀ y, b.occupant? h = some y →
    (∃ x, a.occupant? h = some x ∧ y.type = x.type ∧ y.holders = x.holders) ∨
      (¬a.Issued h.tenancy ∧ y.holders = 1)

namespace Heap

variable {a b : Heap C} {h k : Handle} {x y : Occupant C}

theorem Keeps.of_eq (same : b.occupant? h = a.occupant? h) : a.Keeps b h := by
  intro y live
  exact Or.inl ⟨y, same.symm.trans live, rfl, rfl⟩

/-- An allocation changes neither the types nor the holders of instances. -/
theorem keeps_of_allocate (wf : a.WellFormed) {o : C.Obj} {v : C.Instance o}
    (allocate : a.allocate o v = .ok (k, b)) (h : Handle) : a.Keeps b h := by
  have view := occupant?_allocate wf.free_vacant allocate h
  by_cases same : h.tenancy = k.tenancy
  · intro y live
    rw [view, if_pos same] at live
    cases live
    rw [same]
    exact Or.inr ⟨wf.not_issued_of_allocate allocate, rfl⟩
  · exact .of_eq (view.trans (if_neg same))

theorem occupant?_of_share {n : Nat} (share : a.share k = .ok (n, b))
    (other : h.tenancy ≠ k.tenancy) : b.occupant? h = a.occupant? h := by
  obtain ⟨x, live, -, -, rfl⟩ := share_eq_ok_iff.1 share
  exact (occupant?_put live _ h).trans (if_neg other)

theorem occupant?_of_release {last : Bool} (release : a.release k = .ok (last, b))
    (other : h.tenancy ≠ k.tenancy) : b.occupant? h = a.occupant? h := by
  obtain ⟨x, live, ⟨-, -, rfl⟩ | ⟨-, -, rfl⟩⟩ := release_eq_ok_iff.1 release
  · exact (occupant?_put live _ h).trans (if_neg other)
  · exact (occupant?_reclaim live h).trans (if_neg other)

end Heap

namespace Transcript.Leads

variable {receiver : Option Handle} {a b : Heap C} {t : Transcript C} {h : Handle} {y : Occupant C}

/-- An instance that comes up has one holder. By induction on the transcript : once it is there, its
holders stay. -/
theorem holders_of_new (leads : t.Leads receiver a b) (wf : a.WellFormed)
    (stale : a.occupant? h = none) (live : b.occupant? h = some y) : y.holders = 1 := by
  induction leads with
  | nil heap => cases stale.symm.trans live
  | @cons a b e t moves rest ih =>
    have first : Transcript.Leads receiver a [e] e.after.heap := .cons moves (.nil _)
    have wf' := first.evolves.wellFormed wf
    cases here : e.after.heap.occupant? h with
    | none => exact ih wf' here live
    | some x =>
      obtain ⟨z, later, -, holders⟩ := (rest.conduct wf').kept h x here
      cases later.symm.trans live
      rw [holders]
      cases moves with
      | still same =>
        rw [same, stale] at here
        cases here
      | changed _ update =>
        cases here.symm.trans ((Heap.touches_of_update update).occupant?_eq_none stale)
      | issued allocate =>
        obtain ⟨x', before, -⟩ | ⟨-, one⟩ := Heap.keeps_of_allocate wf allocate h x here
        · cases stale.symm.trans before
        · exact one

/-- Native code changes neither the types nor the holders of instances, its receiver included. -/
theorem keeps (leads : t.Leads receiver a b) (wf : a.WellFormed) (h : Handle) : a.Keeps b h := by
  intro y live
  cases before : a.occupant? h with
  | some x =>
    obtain ⟨z, after, kept⟩ := (leads.conduct wf).kept h x before
    cases after.symm.trans live
    exact Or.inl ⟨x, rfl, kept⟩
  | none =>
    refine Or.inr ⟨fun issued => ?_, leads.holders_of_new wf before live⟩
    cases live.symm.trans (leads.evolves.stale wf issued before)

/-- A release of what the transcript has issued takes it away again. -/
theorem keeps_of_release (leads : t.Leads receiver a b) (wf : a.WellFormed) {c : Heap C}
    {k : Handle} {last : Bool} (issued : k ∈ t.issued) (release : b.release k = .ok (last, c))
    (h : Handle) : a.Keeps c h := by
  intro y live
  by_cases same : h.tenancy = k.tenancy
  · obtain ⟨x, there, ⟨others, -, -⟩ | ⟨-, -, rfl⟩⟩ := Heap.release_eq_ok_iff.1 release
    · -- a new instance has one holder, so there are no others
      obtain ⟨z, before, -⟩ | ⟨-, one⟩ := leads.keeps wf k x there
      · exact absurd (wf.issued_of_live before) (leads.evolves.fresh wf issued)
      · rw [one] at others
        cases others
    · rw [Heap.occupant?_reclaim there, if_pos same] at live
      cases live
  · rw [Heap.occupant?_of_release release same] at live
    exact leads.keeps wf h y live

end Transcript.Leads

/-! ## Objects returned -/

/-- A return value that is an object has been set by the exchange, or was there before. -/
theorem Request.object?_perform (f : Frame) (r : Request C) (s : Activation C) {k : Handle}
    (returned : (r.perform f s).2.result.object? = some k) :
    s.result.object? = some k ∨ (r.exchange f s).issued? = some k := by
  cases r with
  | argCount | outline | slot | note => exact Or.inl returned
  | arg index t =>
    rw [perform_arg_after] at returned
    exact Or.inl returned
  | this o =>
    rw [perform_this_after] at returned
    exact Or.inl returned
  | thisMut o change =>
    refine Or.inl ?_
    simp only [perform] at returned
    split at returned
    · exact returned
    · split at returned <;> exact returned
  | setReturn t v =>
    cases handed : t.toHost v s.heap with
    | error e =>
      simp only [perform, handed] at returned
      exact Or.inl returned
    | ok p =>
      simp only [perform, handed] at returned
      refine Or.inr ?_
      simpa [exchange, perform, handed, Exchange.issued?] using returned

/-- By induction on the code, one exchange at a time. -/
theorem Native.object?_run {α : Type} (code : Native C α) (f : Frame) (s : Activation C)
    {k : Handle} (returned : (code.run f s).2.result.object? = some k) :
    s.result.object? = some k ∨ k ∈ (code.transcript f s).issued := by
  induction code generalizing s with
  | finish o => exact Or.inl returned
  | ask r g ih =>
    have here := r.object?_perform f s (k := k)
    rcases hp : r.perform f s with ⟨p | a, s'⟩
    · rw [run_ask_of_panic hp] at returned
      rw [transcript_ask_of_panic hp, Transcript.issued_singleton, Option.mem_toList]
      rw [hp] at here
      exact here returned
    · rw [run_ask_of_ok hp] at returned
      rw [transcript_ask_of_ok hp, ← List.singleton_append, Transcript.issued_append,
        Transcript.issued_singleton, List.mem_append, Option.mem_toList, ← or_assoc]
      rw [hp] at here
      exact (ih a s' returned).imp_left here

/-- An object that a call returns has been issued by the call. -/
theorem Invoker.issued_of_object {inv : Invoker} {native : NativeFn C} {site : CallSite}
    {receiver : Option Handle} {args : List HostValue} {heap : Heap C} {k : Handle}
    (returned : (inv.invoke native site receiver args heap).outcome = .ok (.object k)) :
    k ∈ (inv.transcript native site receiver args heap).issued := by
  obtain ⟨arity, -, result⟩ := (invoke_eq_ok_iff ..).1 returned
  rw [transcript, if_pos arity]
  obtain before | issued := Native.object?_run native.code _ _ (congrArg HostValue.object? result)
  · cases before
  · exact issued

end NativeBridge
