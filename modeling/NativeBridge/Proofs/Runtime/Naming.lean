import NativeBridge.Proofs.Runtime.Typing

/-!
# The class that a handle names

A runtime is asked for the type of a live instance, but finds the class by the identity in the handle,
without a look at the instance. That identity is the one of the instance's type in every handle that
has been handed out, whatever is registered and however often the slot has been used before
(`Heap.Evolves.identity_of_issued`). For a handle that the host has made up the answer can be wrong,
and another one than the heap's, which has the name from the instance (`Heap.typeName`).

`Runtime.typeOf_after` : what a runtime says of the type of a live instance is the name of the class
of the handle's identity, and this is the class of the instance, `Runtime.classBehind?`, if and only if
the handle carries the identity of the instance's type. Where classes go by the names of native types
(`Registry.Named`), the same decides whether it is the name of that type, that is, whether the runtime
and its heap agree. `Runtime.typeOf_forged` has a handle for which they do not.
-/

namespace NativeBridge

variable {C : Catalog}

namespace Registry

/-- A class has the identity of a native type if and only if it has its name. -/
def Named (r : Registry C) : Prop :=
  ∀ e ∈ r.classes, ∀ o, e.identity = C.identity o ↔ e.name = C.name o

/-- Generated classes have the names of native types, unless two of these names have one identity. -/
theorem Generated.named {r : Registry C} (generated : r.Generated)
    (distinct : ∀ o o', C.identity o = C.identity o' → C.name o = C.name o') : r.Named := by
  intro e mem o
  obtain ⟨o', copies, ps, same⟩ := (generated.classes e mem).declared
  have name : e.name = C.name o' := congrArg ClassMeta.name same
  have identity : e.identity = C.identity o' := congrArg ClassMeta.identity same
  refine ⟨fun carries => ?_, fun named => ?_⟩
  · rw [name]
    exact distinct o' o (identity.symm.trans carries)
  · rw [identity, Catalog.identity, ← name, named]
    rfl

end Registry

namespace Runtime

variable {rt : Runtime C} {h : Handle} {e : ClassEntry C} {x : Occupant C} {n : String}

/-- The class of the instance behind a handle, whatever the handle says. -/
def classBehind? (rt : Runtime C) (h : Handle) : Option (ClassEntry C) :=
  (rt.heap.occupant? h).bind fun x => rt.registry.classOf? (C.identity x.type)

theorem typeOf_eq_ok_iff : rt.typeOf h = .ok n ↔ ∃ e, rt.classFor h = .ok e ∧ e.name = n := by
  rw [typeOf]
  cases rt.classFor h <;> simp [Except.map]

/-- The class that a handle names is that of the instance if the handle carries its identity. -/
theorem classBehind?_eq_some_iff (entry : rt.classFor h = .ok e)
    (live : rt.heap.occupant? h = some x) :
    rt.classBehind? h = some e ↔ h.identity = C.identity x.type := by
  obtain ⟨-, mem, identity⟩ := classFor_eq_ok_iff.1 entry
  rw [classBehind?, live, Option.bind_some, Registry.classOf?_eq_some_iff, identity]
  exact and_iff_right mem

/-- The heap says the name of the class if the handle carries the identity of the instance. -/
theorem typeName_eq_ok_iff (named : rt.registry.Named) (entry : rt.classFor h = .ok e)
    (live : rt.heap.occupant? h = some x) :
    rt.heap.typeName h = .ok e.name ↔ h.identity = C.identity x.type := by
  obtain ⟨-, mem, identity⟩ := classFor_eq_ok_iff.1 entry
  rw [← identity, named e mem x.type, Heap.typeName, Heap.lookup_of_live live]
  simp [Except.map, eq_comm]

/-- A handle that was handed out carries the identity of the type of its instance. -/
theorem identity_of_handedOut {ops : List Operation} (wf : rt.heap.WellFormed)
    (handed : h ∈ (rt.journal ops).handedOut) (live : (rt.after ops).heap.occupant? h = some x) :
    h.identity = C.identity x.type :=
  (rt.after_evolves ops).identity_of_issued wf (mem_issuedIn_of_handedOut handed) live

/-- After every run on an empty heap, if a runtime names the type of what is behind a handle : an
instance lives there, and the name is that of the class of the handle's identity. It is the class of
the instance if and only if this is the identity of the instance's type, as it is in every handle that
the run has handed out. -/
theorem typeOf_after (registry : Registry C) (config : Config) (ops : List Operation) (h : Handle)
    (n : String) (answered : ((⟨registry, config, .empty⟩ : Runtime C).after ops).typeOf h = .ok n) :
    let start : Runtime C := ⟨registry, config, .empty⟩
    let rt := start.after ops
    ∃ x e, rt.heap.occupant? h = some x ∧ registry.classOf? h.identity = some e ∧ e.name = n ∧
      (rt.classBehind? h = some e ↔ h.identity = C.identity x.type) ∧
      (registry.Named → (rt.heap.typeName h = .ok n ↔ h.identity = C.identity x.type)) ∧
      (h ∈ (start.journal ops).handedOut → h.identity = C.identity x.type) := by
  intro start rt
  have same : rt.registry = registry := start.after_registry ops
  obtain ⟨e, entry, rfl⟩ := typeOf_eq_ok_iff.1 answered
  obtain ⟨⟨x, live⟩, mem, identity⟩ := classFor_eq_ok_iff.1 entry
  refine ⟨x, e, live, ?_, rfl, classBehind?_eq_some_iff entry live, fun named => ?_, fun handed => ?_⟩
  · rw [← same]
    exact Registry.classOf?_eq_some_iff.2 ⟨mem, identity⟩
  · exact typeName_eq_ok_iff (same.symm ▸ named) entry live
  · exact identity_of_handedOut Heap.wellFormed_empty handed live

open Gallery in
/-- In the place of a token that has gone there is a counter, and its handle says so. -/
theorem typeOf_after_counter :
    let rt := Mint.start.after Mint.reuse
    let h : Handle := ⟨0, 1, catalog.identity .counter⟩
    Mint.registry.Named ∧ h ∈ (Mint.start.journal Mint.reuse).handedOut ∧
      rt.typeOf h = .ok "Counter" ∧ rt.classBehind? h = some Mint.counters ∧
      rt.heap.typeName h = .ok "Counter" := by
  intro rt h
  have named : Mint.registry.Named :=
    Mint.generated.named fun o o' same => congrArg catalog.name (identity_injective same)
  have answered : rt.typeOf h = .ok "Counter" :=
    congrArg (Except.map ClassEntry.name) Mint.classFor_counter
  obtain ⟨x, e, live, entry, -, behind, name, own⟩ :=
    typeOf_after Mint.registry {} Mint.reuse h "Counter" answered
  obtain rfl := Option.some.inj (entry.symm.trans Mint.classOf?_counter)
  have identity := own Mint.handedOut_counter
  exact ⟨named, Mint.handedOut_counter, answered, behind.2 identity, (name named).2 identity⟩

open Gallery in
/-- The wrong name. Of a live token the runtime says that it is a counter, as the handle that the host
has made up does, while the heap says that it is a token. No class is registered for tokens here. -/
theorem typeOf_forged :
    let rt := Mint.start.after Mint.reuse
    let h : Handle := ⟨1, 0, catalog.identity .counter⟩
    rt.typeOf h = .ok "Counter" ∧ rt.heap.typeName h = .ok "Token" ∧ rt.classBehind? h = none := by
  intro rt h
  have live : rt.heap.occupant? h = some ⟨.token, ⟨.wrap .i64 7⟩, 1, false⟩ := by
    rw [show rt = _ from Mint.after_reuse]
    rfl
  have entry : rt.classFor h = .ok Mint.counters := classFor_of_live Mint.classOf?_counter live
  refine ⟨typeOf_eq_ok_iff.2 ⟨_, entry, rfl⟩, ?_, ?_⟩
  · rw [Heap.typeName, Heap.lookup_of_live live]
    rfl
  · rw [classBehind?, live, Option.bind_some, Registry.classOf?_eq_none_iff]
    decide +kernel

end Runtime

end NativeBridge
