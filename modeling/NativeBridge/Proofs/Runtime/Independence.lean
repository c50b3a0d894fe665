import NativeBridge.Proofs.Runtime.Lifecycle

/-!
# Instances derived from others

Copies, and calls of value-producing methods, derive an instance from another (`Runtime.Derives`).
The handle of the derived instance is new, and the instance it is derived from stays as it is.

From then on the two are `Runtime.Independent` : whatever the host goes on to do, each of the two
instances is changed only by operations on its own handle that alter it (`Runtime.after_unaltered`),
and does not notice operations on anything else (`Runtime.after_elsewhere`).
`Runtime.derived_independent` puts this together.
-/

namespace NativeBridge

variable {C : Catalog}

/-- The operation is not about the instance behind the handle. -/
def Operation.Elsewhere (op : Operation) (h : Handle) : Prop :=
  ∀ k, op.target? = some k → k.tenancy ≠ h.tenancy

namespace Runtime

/-- The operation copies the instance behind the handle, or calls a value-producing method of its
class. -/
inductive Derives (rt : Runtime C) : Operation → Handle → Prop
  | copy (h : Handle) : Derives rt (.copy h) h
  | method {h : Handle} {name : String} {args : List HostValue} {e : ClassEntry C}
      {m : MethodMeta C} (entry : rt.classFor h = .ok e) (method : e.method name = .ok m)
      (producing : m.receiver = .valueProducing) : Derives rt (.callMethod h name args) h

variable {rt : Runtime C} {op : Operation} {g h : Handle} {x y : Occupant C}

/-! ## The operation -/

/-- What derives a new instance alters none. -/
theorem Derives.spares (derives : rt.Derives op h) (g : Handle) : ¬rt.Alters op g := by
  intro alters
  cases derives with
  | copy => cases alters
  | method entry method producing =>
    cases alters with
    | method entry' method' own mutating =>
      cases entry.symm.trans entry'
      cases method.symm.trans method'
      cases producing.symm.trans mutating

/-- If an instance can be derived, the handle carries the identity of the type of its instance. -/
theorem Derives.genuine (derives : rt.Derives op h) (sound : rt.Sound) {r : Response}
    (ok : (rt.perform op).outcome = .ok r) :
    ∃ x, rt.heap.occupant? h = some x ∧ rt.Genuine h := by
  obtain ⟨o, identity, x, live, rfl⟩ : ∃ o, C.identity o = h.identity ∧ rt.heap.Houses h o := by
    cases derives with
    | copy =>
      obtain ⟨e, o, v, w, k, -, identity, found, -⟩ := allocate_of_copy sound.generated ok
      exact ⟨o, identity, Heap.houses_iff.2 ⟨v, found⟩⟩
    | method =>
      obtain ⟨e, o, -, identity, houses⟩ := houses_of_uses sound.generated (.callMethod _ _) ok
      exact ⟨o, identity, houses⟩
  refine ⟨x, live, sound.wellFormed.issued_of_live live, fun y there => ?_⟩
  cases live.symm.trans there
  exact identity.symm

/-- The host is handed the handle of the derived instance. -/
theorem Derives.handedOut (derives : rt.Derives op h) (generated : rt.registry.Generated)
    {r : Response} (ok : (rt.perform op).outcome = .ok r) :
    ∃ k, (rt.entry op).handedOut? = some k := by
  rw [entry, ok]
  cases derives with
  | copy =>
    obtain ⟨e, o, v, w, k, -, -, -, -, -, rfl⟩ := allocate_of_copy generated ok
    exact ⟨k, rfl⟩
  | @method _ name args e _ entry method producing =>
    obtain ⟨o, n, c, -, own, rfl⟩ := (generated.classes _ (mem_of_classFor entry)).method
      (ClassEntry.mem_of_method method)
    obtain ⟨cause, refused, -⟩ | ⟨d, dispatch, relayed⟩ := rt.callMethod_cases h name args
    · cases refused.symm.trans (dispatch?_eq_some_iff.2 (.callMethod entry method))
    cases dispatch.symm.trans (dispatch?_eq_some_iff.2 (.callMethod entry method))
    rw [relayed] at ok
    obtain ⟨result, ended, rfl⟩ := exists_ok_of_finish ok
    obtain ⟨values, outcome, between, v, -, -, handed⟩ :=
      (Dispatch.behaves (.callable c) rfl).ran_of_ok ended
    have returns := Callable.returns_of_valueProducing producing
    generalize c.returns = t at v handed returns
    subst returns
    obtain ⟨k, rfl, -⟩ := NativeType.exists_of_toHost_object handed
    exact ⟨k, rfl⟩

theorem Derives.leaves (derives : rt.Derives op h) (sound : rt.Sound) (genuine : rt.Genuine h)
    (live : rt.heap.occupant? h = some x) : (rt.perform op).runtime.heap.occupant? h = some x := by
  cases perform_aftermath sound genuine live op with
  | untouched _ _ after => exact after
  | altered alters => exact absurd alters (derives.spares h)
  | reclaimed _ last => cases derives <;> cases last
  | counted _ _ told => cases derives <;> rcases told with told | told <;> cases told

/-! ## Runs -/

/-- Some operation of the run alters the instance behind the handle. -/
def AltersIn (rt : Runtime C) (h : Handle) : List Operation → Prop
  | [] => False
  | op :: ops => rt.Alters op h ∨ (rt.perform op).runtime.AltersIn h ops

/-- Unless it is altered, a live instance changes in the number of its holders only. By induction on
the operations. -/
theorem after_unaltered (sound : rt.Sound) (genuine : rt.Genuine h)
    (live : rt.heap.occupant? h = some x) {ops : List Operation} (spares : ¬rt.AltersIn h ops)
    (later : (rt.after ops).heap.occupant? h = some y) : y = { x with holders := y.holders } := by
  induction ops generalizing rt x with
  | nil =>
    cases live.symm.trans later
    rfl
  | cons op ops ih =>
    obtain ⟨now, hence⟩ := not_or.1 spares
    have sound' := sound.perform op
    have genuine' := genuine.perform sound op
    cases perform_aftermath sound genuine live op with
    | reclaimed _ _ after =>
      have gone :=
        ((rt.perform op).runtime.after_evolves ops).stale sound'.wellFormed genuine'.issued after
      cases gone.symm.trans later
    | altered alters => exact absurd alters now
    | counted _ _ _ after | untouched _ _ after =>
      have kept := ih sound' genuine' after hence later
      exact kept

/-- An instance does not notice operations on other instances. By induction on the operations. -/
theorem after_elsewhere (wf : rt.heap.WellFormed) (live : rt.heap.occupant? h = some x)
    {ops : List Operation} (elsewhere : ∀ op ∈ ops, op.Elsewhere h) :
    (rt.after ops).heap.occupant? h = some x := by
  induction ops generalizing rt with
  | nil => exact live
  | cons op ops ih =>
    obtain ⟨now, later⟩ := List.forall_mem_cons.1 elsewhere
    refine ih ((rt.perform_evolves op).wellFormed wf) (perform_others wf live ?_ ?_ ?_) later
    · intro d dispatch k named
      exact now k ((dispatch?_eq_some_iff.1 dispatch).receiver.symm.trans named)
    · intro shared
      obtain ⟨k, r, told, same⟩ := Entry.shared?_eq_some_iff.1 shared
      obtain ⟨rfl, -⟩ := Entry.mk.inj told
      exact now k rfl same
    · intro released
      obtain ⟨k, last, told, same⟩ := Entry.released?_eq_some_iff.1 released
      obtain ⟨rfl, -⟩ := Entry.mk.inj told
      exact now k rfl same

/-- Whatever the host does from now on, the instance behind the handle changes only when it is
altered through this handle, and operations on other instances leave it as it is. -/
structure Independent (rt : Runtime C) (h : Handle) : Prop where
  unaltered : ∀ first rest x y, (rt.after first).heap.occupant? h = some x →
    (rt.after (first ++ rest)).heap.occupant? h = some y → ¬(rt.after first).AltersIn h rest →
      y = { x with holders := y.holders }
  elsewhere : ∀ first rest x, (rt.after first).heap.occupant? h = some x →
    (∀ op ∈ rest, op.Elsewhere h) → (rt.after (first ++ rest)).heap.occupant? h = some x

/-- Behind a genuine handle nothing changes but through an operation on it. -/
theorem Genuine.independent (genuine : rt.Genuine h) (sound : rt.Sound) : rt.Independent h where
  unaltered first rest x y live later spares := by
    rw [after_append] at later
    exact after_unaltered (sound.after first) (genuine.after sound first) live spares later
  elsewhere first rest x live elsewhere := by
    rw [after_append]
    exact after_elsewhere (sound.after first).wellFormed live elsewhere

/-- In a run on an empty heap, a copy that succeeds, and a call of a value-producing method that
succeeds, hand out a new handle, to a new instance with one holder, and leave the instance that it
is derived from as it is. A copy is what the type makes of the instance, which is the same again if
it copies faithfully. From then on the two instances are independent of each other, and of all
others. -/
theorem derived_independent (registry : Registry C) (generated : registry.Generated)
    (config : Config) (ops : List Operation) (op : Operation) (h : Handle) (r : Response) :
    let start : Runtime C := ⟨registry, config, .empty⟩
    let rt := start.after ops
    let rt' := (rt.perform op).runtime
    rt.Derives op h → (rt.perform op).outcome = .ok r →
      ∃ x k, rt.heap.occupant? h = some x ∧ (rt.entry op).handedOut? = some k ∧
        k.tenancy ∉ (start.journal ops).handedOut.map Handle.tenancy ∧ k.tenancy ≠ h.tenancy ∧
        rt'.state k = .constructed ∧ rt'.holders? k = some 1 ∧ rt'.heap.occupant? h = some x ∧
        (op = .copy h → ∃ w, C.clone x.type x.value = .ok w ∧
          rt'.heap.occupant? k = some ⟨x.type, w, 1, false⟩ ∧
            ((NativeType.object x.type).Faithful → w = x.value)) ∧
        rt'.Independent h ∧ rt'.Independent k := by
  intro start rt rt' derives ok
  have sound : rt.Sound := (sound_empty generated config).after ops
  have sound' : rt'.Sound := sound.perform op
  obtain ⟨x, live, genuine⟩ := derives.genuine sound ok
  obtain ⟨k, handed⟩ := derives.handedOut sound.generated ok
  have issued : k ∈ rt.issued op := by
    rw [issued_eq_handedOut sound.generated, handed]
    exact List.mem_singleton_self k
  have fresh := (rt.perform_evolves op).fresh sound.wellFormed issued
  obtain ⟨o, v, born, -⟩ := newborn sound issued
  refine ⟨x, k, live, handed, ?_, ?_, Heap.state_of_live born, holders?_of_live born,
    derives.leaves sound genuine live, ?_, (genuine.perform sound op).independent sound',
    (genuine_of_issued sound issued).independent sound'⟩
  · rw [← issuedIn_eq_handedOut generated]
    intro before
    exact fresh (((start.after_evolves ops).issued_iff Heap.wellFormed_empty _).2 (Or.inr before))
  · intro again
    exact fresh (again ▸ genuine.issued)
  · rintro rfl
    obtain ⟨e, o, v, w, j, -, -, found, cloned, allocated, rfl⟩ :=
      allocate_of_copy sound.generated ok
    obtain ⟨y, there, typed⟩ := Heap.get_eq_ok_iff.1 found
    cases there.symm.trans live
    obtain ⟨type, value, holders, mutated⟩ := x
    cases Occupant.as?_eq_some_iff.1 typed
    rw [entry, ok] at handed
    cases handed
    refine ⟨w, cloned, ?_, fun faithful => ?_⟩
    · rw [Heap.occupant?_allocate sound.wellFormed.free_vacant allocated, if_pos rfl]
    · cases (faithful v).symm.trans cloned
      rfl

open Gallery in
/-- A counter is copied. What its copy counts from then on it does not notice. -/
theorem derived_independent_counter :
    let seven : Occupant catalog := ⟨.counter, ⟨.wrap .i64 7⟩, 1, false⟩
    let h : Handle := ⟨0, 1, catalog.identity .counter⟩
    let k : Handle := ⟨2, 0, catalog.identity .counter⟩
    let count : Operation := .callMethod k "advance" [.int (.wrap .i64 5)]
    let rt := Mint.start.after Mint.reuse
    let rt' := (rt.perform (.copy h)).runtime
    Mint.registry.Generated ∧ rt.Derives (.copy h) h ∧
      (rt.perform (.copy h)).outcome = .ok (.handle k) ∧ rt'.heap.occupant? k = some seven ∧
      rt'.heap.occupant? h = some seven ∧
      (rt'.after [count, count]).heap.occupant? h = some seven := by
  intro seven h k count rt rt'
  have live : rt.heap.occupant? h = some seven := Mint.occupant?_counter
  have found : rt.classFor h = .ok Mint.counters := Mint.classFor_counter
  have ok : (rt.perform (.copy h)).outcome = .ok (.handle k) := by
    simp only [perform, copy, found]
    rw [show rt = _ from Mint.after_reuse]
    rfl
  have answer : (rt.entry (.copy h)).handedOut? = some k := by
    rw [entry, ok]
    rfl
  obtain ⟨x, j, there, handed, -, -, -, -, kept, copied, independent, -⟩ :=
    derived_independent Mint.registry Mint.generated {} Mint.reuse (.copy h) h _ (.copy h) ok
  obtain ⟨w, cloned, born, -⟩ := copied rfl
  cases live.symm.trans there
  cases answer.symm.trans handed
  cases cloned
  refine ⟨Mint.generated, .copy h, ok, born, kept, independent.elsewhere [] _ _ kept ?_⟩
  rintro op mem g target same
  obtain rfl : op = count := by simpa using mem
  cases target
  exact absurd same (by decide)

end Runtime

end NativeBridge
