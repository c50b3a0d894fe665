import NativeBridge.Proofs.Runtime.Access
import NativeBridge.Proofs.Runtime.Census
import NativeBridge.Proofs.Runtime.Holders

/-!
# Fields as the host sees them

What a field holds (`Property.Holds`) it goes on to hold as long as the steps of a run spare it
(`Entry.Spares`) : one step keeps it (`Runtime.perform_holds`), and so does a run
(`Runtime.after_holds`). So what was written to it is read back (`Runtime.GivesBack`). Whatever else is
read does not notice the write (`Runtime.ReadsSame`), and other writes to the instance are the same
before it and after it.

`Runtime.setField_laws` puts this together : what was written is read back, nothing else changes, a
second write to the field takes the place of the first, and writes to two fields can change places.
`Runtime.setField_altered` has the cases in which something else is read.
-/

namespace NativeBridge

variable {C : Catalog}

/-! ## Steps that spare a field -/

/-- The step leaves the field alone : it may read and write the instance under this very handle, but
writes nothing else to the field, calls no method, and does not reclaim the instance. What it does to
other instances does not matter. -/
def Entry.Spares (h : Handle) (name : String) : Entry → Prop
  | ⟨.setField k other _, o⟩ => k.tenancy = h.tenancy → k = h ∧ (other = name → o ≠ .ok .done)
  | ⟨.getField k _, _⟩ => k.tenancy = h.tenancy → k = h
  | ⟨.callMethod k _ _, _⟩ => k.tenancy ≠ h.tenancy
  | ⟨.release k, o⟩ => k.tenancy = h.tenancy → o ≠ .ok (.reclaimed true)
  | _ => True

/-- The instance is live, and the field of it holds the value. -/
def Property.Holds {o : C.Obj} (p : Property C o) (heap : Heap C) (h : Handle)
    (a : p.type.Value) : Prop :=
  ∃ s n m, heap.occupant? h = some ⟨o, s, n, m⟩ ∧ p.get s = a

theorem Invoker.changes_transcript_of_steady {inv : Invoker} {native : NativeFn C} {site : CallSite}
    {receiver : Option Handle} {args : List HostValue} {heap : Heap C}
    (steady : native.code.Throughout fun e => e.changes = false) :
    (inv.transcript native site receiver args heap).changes = false := by
  rw [Transcript.changes_eq_false_iff, transcript]
  split
  · exact steady _ _
  · exact fun e mem => absurd mem List.not_mem_nil

namespace Runtime

variable {rt : Runtime C} {op : Operation} {h : Handle} {x : Occupant C}

variable {e : ClassEntry C} {o : C.Obj} {ps : List (Property C o)} {p : Property C o}
  {a : p.type.Value}

/-- Reading changes nothing of the instance. -/
theorem getField_untouched (wf : rt.heap.WellFormed)
    (entry : rt.registry.classOf? h.identity = some e) (derived : e.Derived o ps)
    (live : rt.heap.occupant? h = some x) (name : String) :
    (rt.perform (.getField h name)).runtime.heap.occupant? h = some x := by
  obtain ⟨cause, -, refused⟩ | ⟨d, dispatch, relayed⟩ := rt.getField_cases h name
  · rw [refused]
    exact live
  · have steady : d.native.code.Throughout fun e => e.changes = false := by
      cases dispatch?_eq_some_iff.1 dispatch with
      | getField found field =>
        cases found.symm.trans (classFor_of_live entry live)
        obtain ⟨q, -, -, rfl⟩ := derived.exists_of_field field
        exact q.steady_getter
    rw [relayed]
    exact ((d.leads rt).conduct wf).untouched (Invoker.changes_transcript_of_steady steady) h x live

/-- A write to the instance leaves the other fields as they are, or it fails. -/
theorem setField_holds (entry : rt.registry.classOf? h.identity = some e)
    (derived : e.Derived o ps) (mem : p ∈ ps) (holds : p.Holds rt.heap h a) {name : String}
    {v : HostValue} (spares : name = p.name →
      (rt.perform (.setField h name v)).outcome ≠ .ok .done) :
    p.Holds (rt.perform (.setField h name v)).runtime.heap h a := by
  obtain ⟨s, n, m, live, held⟩ := holds
  obtain refuses | ⟨q, mem', rfl, set, b, writes, written⟩ :=
    exists_writes_or_refuses entry derived live rfl name v
  · obtain ⟨cause, refused, -⟩ := refuses.perform live rfl
    rw [refused]
    exact ⟨s, n, m, live, held⟩
  · rw [written.perform live] at spares ⊢
    have other : p.name ≠ q.name := fun same => spares same.symm rfl
    refine ⟨set b s, n, true, occupant?_put live _, ?_⟩
    rw [derived.get_set_of_ne mem' mem other writes b s, held]

/-- One step. -/
theorem perform_holds (wf : rt.heap.WellFormed)
    (entry : rt.registry.classOf? h.identity = some e) (derived : e.Derived o ps) (mem : p ∈ ps)
    (holds : p.Holds rt.heap h a) (spares : (rt.entry op).Spares h p.name) :
    p.Holds (rt.perform op).runtime.heap h a := by
  obtain ⟨s, n, m, live, held⟩ := id holds
  by_cases shared : (rt.entry op).shared? = some h.tenancy
  · obtain ⟨x, before, -, after⟩ := occupant?_of_shared shared
    cases before.symm.trans live
    exact ⟨s, _, m, after, held⟩
  by_cases released : (rt.entry op).released? = some h.tenancy
  · obtain ⟨x, before, after⟩ := occupant?_of_released released
    cases before.symm.trans live
    obtain ⟨k, last, told, same⟩ := Entry.released?_eq_some_iff.1 released
    obtain ⟨rfl, answered⟩ := Entry.mk.inj told
    have others : 0 < n - 1 := by
      refine Nat.pos_of_ne_zero fun none => spares same ?_
      rw [outcome_release ((Heap.occupant?_congr _ same).trans live), decide_eq_true none]
    rw [if_pos others] at after
    exact ⟨s, _, m, after, held⟩
  by_cases called : ∃ d, rt.dispatch? op = some d ∧ ∃ r ∈ d.receiver, r.tenancy = h.tenancy
  swap
  · have beside : ∀ d, rt.dispatch? op = some d → ∀ r ∈ d.receiver, r.tenancy ≠ h.tenancy :=
      fun d dispatch r named same => called ⟨d, dispatch, r, named, same⟩
    exact ⟨s, n, m, perform_others wf live beside shared released, held⟩
  obtain ⟨d, dispatch, r, named, same⟩ := called
  cases dispatch?_eq_some_iff.1 dispatch with
  | call | construct | constructWith => cases named
  | getField =>
    cases named
    obtain rfl := spares same
    exact ⟨s, n, m, getField_untouched wf entry derived live _, held⟩
  | setField =>
    cases named
    obtain ⟨rfl, other⟩ := spares same
    exact setField_holds entry derived mem holds other
  | callMethod =>
    cases named
    exact absurd same spares

/-- By induction on the operations. -/
theorem after_holds (wf : rt.heap.WellFormed)
    (entry : rt.registry.classOf? h.identity = some e) (derived : e.Derived o ps) (mem : p ∈ ps)
    (holds : p.Holds rt.heap h a) {ops : List Operation}
    (spares : ∀ entry ∈ rt.journal ops, entry.Spares h p.name) :
    (rt.after ops).registry.classOf? h.identity = some e ∧ p.Holds (rt.after ops).heap h a := by
  induction ops generalizing rt with
  | nil => exact ⟨entry, holds⟩
  | cons op ops ih =>
    obtain ⟨first, later⟩ := List.forall_mem_cons.1 spares
    have entry' : (rt.perform op).runtime.registry.classOf? h.identity = some e := by
      rw [perform_registry]
      exact entry
    exact ih ((rt.perform_evolves op).wellFormed wf) entry'
      (perform_holds wf entry derived mem holds first) later

end Runtime

/-! ## Reading -/

theorem Invoker.conclude_of_toHost {inv : Invoker} {site : CallSite} {t : NativeType C} {v : t.Value}
    {heap after : Heap C} {w : HostValue} (handed : t.toHost v heap = .ok (w, after)) :
    inv.conclude site t (.ok v) heap = ⟨.ok w, after, []⟩ := by
  rw [conclude, handed]

/-- The end of a call does not notice that an occupant was replaced. -/
theorem Invoker.conclude_put {heap : Heap C} {h : Handle} {x : Occupant C} (wf : heap.WellFormed)
    (live : heap.occupant? h = some x) (y : Occupant C) (inv : Invoker) (site : CallSite)
    (t : NativeType C) (v : t.Value) :
    inv.conclude site t (.ok v) (heap.put h y) =
      { inv.conclude site t (.ok v) heap with
        heap := (inv.conclude site t (.ok v) heap).heap.put h y } := by
  simp only [conclude, NativeType.toHost_put wf live y]
  cases t.toHost v heap <;> rfl

namespace Runtime

variable {o : C.Obj}

/-- What was written in a former heap is read back. Only if that takes a copy of an instance, and there
is no room for it, the read is refused. -/
def GivesBack (rt : Runtime C) (written : Heap C) (h : Handle) (p : Property C o) (v : HostValue) :
    Prop :=
  let read := rt.perform (.getField h p.name)
  (∃ w, read.outcome = .ok (.value w) ∧ p.type.ReadsBack written rt.heap read.runtime.heap v w) ∨
    (∃ r, p.type.content = .object r) ∧ ¬rt.heap.HasRoom ∧ ∃ cause, read = rt.answer (.error cause)

/-- The field reads the same in both runtimes. If that is a handle, it has the same instance behind
it. -/
structure ReadsSame (a b : Runtime C) (k : Handle) (name : String) : Prop where
  outcome : (a.perform (.getField k name)).outcome = (b.perform (.getField k name)).outcome
  behind : ∀ j, (b.perform (.getField k name)).outcome = .ok (.value (.object j)) →
    (a.perform (.getField k name)).runtime.heap.occupant? j =
      (b.perform (.getField k name)).runtime.heap.occupant? j

variable {rt : Runtime C} {h k : Handle} {x y : Occupant C} {name : String} {e : ClassEntry C}
  {ps : List (Property C o)} {p : Property C o} {s s' : C.Instance o} {n n' : Nat} {m m' : Bool}

/-- What a field holds was written to it, and is read back. -/
theorem givesBack_of_holds (wf : rt.heap.WellFormed)
    (entry : rt.registry.classOf? h.identity = some e) (derived : e.Derived o ps) (mem : p ∈ ps)
    {a : p.type.Value} (holds : p.Holds rt.heap h a) {policy : NumericPolicy} {written : Heap C}
    {v : HostValue} (accepted : p.type.fromHost policy written v = .ok a) :
    rt.GivesBack written h p v := by
  obtain ⟨s, n, m, live, rfl⟩ := holds
  have read := perform_getField entry derived mem live
  obtain ⟨w, after, handed, back⟩ | ⟨object, full, refused⟩ :=
    NativeType.readsBack_of_fromHost (derived.faithful p mem) wf accepted
  · rw [Invoker.conclude_of_toHost handed] at read
    refine Or.inl ⟨w, ?_, ?_⟩
    · rw [read]
      rfl
    · rw [read]
      exact back
  · rw [Invoker.conclude, refused] at read
    exact Or.inr ⟨object, full, _, read⟩

/-- A handle that is read is a new one. -/
theorem not_issued_of_getField (wf : rt.heap.WellFormed) {j : Handle}
    (returned : (rt.perform (.getField k name)).outcome = .ok (.value (.object j))) :
    ¬rt.heap.Issued j.tenancy := by
  obtain ⟨cause, -, refused⟩ | ⟨d, -, relayed⟩ := rt.getField_cases k name
  · rw [refused] at returned
    cases returned
  · rw [relayed] at returned
    obtain ⟨result, ok, same⟩ := exists_ok_of_finish returned
    cases same
    exact (d.leads rt).evolves.fresh wf (Invoker.issued_of_object ok)

/-- If a read commutes with the replacement of an occupant, it reads the same. -/
theorem readsSame_of_put (wf : rt.heap.WellFormed) (live : rt.heap.occupant? h = some x)
    (still : (rt.perform (.getField k name)).runtime.heap.occupant? h = some x)
    (same : (rt.put h y).perform (.getField k name) = (rt.perform (.getField k name)).put h y) :
    (rt.put h y).ReadsSame rt k name where
  outcome := (congrArg Step.outcome same).trans rfl
  behind j returned := by
    have other : j.tenancy ≠ h.tenancy := fun old =>
      not_issued_of_getField wf returned (old ▸ wf.issued_of_live live)
    rw [same]
    exact (Heap.occupant?_put still y j).trans (if_neg other)

/-- Another instance does not notice. -/
theorem readsSame_of_ne (wf : rt.heap.WellFormed) (live : rt.heap.occupant? h = some x)
    (y : Occupant C) (other : k.tenancy ≠ h.tenancy) (name : String) :
    (rt.put h y).ReadsSame rt k name := by
  refine readsSame_of_put wf live ?_ (perform_put_of_ne wf live y (.getField name) other nofun)
  refine perform_others wf live ?_ nofun nofun
  intro d dispatch r named
  cases dispatch?_eq_some_iff.1 dispatch with
  | getField =>
    cases named
    exact other

/-- A field that holds what it held does not notice. -/
theorem readsSame_of_get (wf : rt.heap.WellFormed)
    (entry : rt.registry.classOf? h.identity = some e) (derived : e.Derived o ps)
    (live : rt.heap.occupant? h = some ⟨o, s, n, m⟩)
    (same : ∀ q ∈ ps, q.name = name → q.get s' = q.get s) :
    (rt.put h ⟨o, s', n', m'⟩).ReadsSame rt h name := by
  refine readsSame_of_put wf live (getField_untouched wf entry derived live name) ?_
  have live' := occupant?_put live ⟨o, s', n', m'⟩
  have entry' : (rt.put h ⟨o, s', n', m'⟩).registry.classOf? h.identity = some e := entry
  cases found : e.field name with
  | error cause =>
    rw [perform, perform, getField, getField, classFor_of_live entry live,
      classFor_of_live entry' live']
    simp only [found]
    rfl
  | ok f =>
    obtain ⟨q, mem, rfl, -⟩ := derived.exists_of_field found
    rw [perform_getField entry derived mem live, perform_getField entry' derived mem live',
      same q mem rfl]
    exact congrArg ((rt.put h ⟨o, s', n', m'⟩).finish · .value)
      (rt.invoker.conclude_put wf live _ _ q.type (q.get s))

/-! ## Writing -/

section Writing

variable {set : p.type.Value → C.Instance o → C.Instance o} {a : p.type.Value} {v : HostValue}

/-- A write after a write to the same field goes as it would have gone at once. -/
theorem setField_again (entry : rt.registry.classOf? h.identity = some e)
    (derived : e.Derived o ps) (mem : p ∈ ps) (writes : p.set = some set)
    (live : rt.heap.occupant? h = some ⟨o, s, n, m⟩) (a : p.type.Value) (w : HostValue) :
    let alone := rt.perform (.setField h p.name w)
    let again := (rt.put h ⟨o, set a s, n, true⟩).perform (.setField h p.name w)
    again.outcome = alone.outcome ∧ (alone.outcome = .ok .done → again.runtime = alone.runtime) := by
  obtain refuses | ⟨set', b, writes', -, written⟩ :=
    writes_or_refuses entry derived mem live rfl w
  · obtain ⟨cause, alone, again⟩ := refuses.perform live rfl
    rw [alone, again ⟨o, set a s, n, true⟩ rfl]
    exact ⟨rfl, nofun⟩
  · cases writes.symm.trans writes'
    rw [written.perform live, written, derived.set_set mem writes]
    exact ⟨rfl, fun _ => rfl⟩

/-- A write and a write to another name can change places, also if the other is refused. -/
theorem setField_swap (entry : rt.registry.classOf? h.identity = some e)
    (derived : e.Derived o ps) (mem : p ∈ ps) (writes : p.set = some set)
    (live : rt.heap.occupant? h = some ⟨o, s, n, m⟩) (written : rt.Writes h p v a set)
    (ne : name ≠ p.name) (w : HostValue) :
    let other := rt.perform (.setField h name w)
    let later := (rt.put h ⟨o, set a s, n, true⟩).perform (.setField h name w)
    let swapped := other.runtime.perform (.setField h p.name v)
    later.outcome = other.outcome ∧ swapped.outcome = .ok .done ∧
      later.runtime = swapped.runtime := by
  obtain refuses | ⟨q, mem', rfl, set', b, writes', written'⟩ :=
    exists_writes_or_refuses entry derived live rfl name w
  · obtain ⟨cause, other, later⟩ := refuses.perform live rfl
    have swapped : (rt.answer (.error cause)).runtime.perform (.setField h p.name v) = _ :=
      written.perform live
    rw [other, later ⟨o, set a s, n, true⟩ rfl]
    dsimp only
    rw [swapped]
    exact ⟨rfl, rfl, rfl⟩
  · rw [written'.perform live, written', derived.set_comm mem mem' ne writes writes']
    dsimp only
    rw [written]
    exact ⟨rfl, rfl, rfl⟩

end Writing

/-- A write to a field of an instance of a derived class is read back, whatever has happened since that
spares the field. Nothing else changes : other fields and other instances read the same, and those are
the same. A second write to the field succeeds or fails as it would have done at once, and leaves
nothing of the first. Writes to two fields can change places. -/
theorem setField_laws (reachable : rt.heap.Reachable) (v : HostValue)
    (entry : rt.registry.classOf? h.identity = some e) (derived : e.Derived o ps) (mem : p ∈ ps)
    (done : (rt.perform (.setField h p.name v)).outcome = .ok .done) :
    let rt' := (rt.perform (.setField h p.name v)).runtime
    (∀ ops, (∀ entry ∈ rt'.journal ops, entry.Spares h p.name) →
        (rt'.after ops).GivesBack rt.heap h p v) ∧
      (∀ k name, (k.tenancy = h.tenancy → k = h ∧ name ≠ p.name) → rt'.ReadsSame rt k name) ∧
      (∀ k, k.tenancy ≠ h.tenancy → rt'.heap.occupant? k = rt.heap.occupant? k) ∧
      (∀ w, let alone := rt.perform (.setField h p.name w)
        let again := rt'.perform (.setField h p.name w)
        again.outcome = alone.outcome ∧
          (alone.outcome = .ok .done → again.runtime = alone.runtime)) ∧
      ∀ name ≠ p.name, ∀ w, let other := rt.perform (.setField h name w)
        let later := rt'.perform (.setField h name w)
        let swapped := other.runtime.perform (.setField h p.name v)
        later.outcome = other.outcome ∧ swapped.outcome = .ok .done ∧
          later.runtime = swapped.runtime := by
  have wf := reachable.wellFormed
  obtain ⟨s, n, m, live⟩ := live_of_setField entry derived mem done
  obtain refuses | ⟨set, a, writes, accepted, written⟩ :=
    writes_or_refuses entry derived mem live rfl v
  · obtain ⟨cause, refused, -⟩ := refuses.perform live rfl
    rw [refused] at done
    cases done
  rw [written.perform live]
  intro rt'
  refine ⟨fun ops spares => ?_, fun k name elsewhere => ?_, fun k other => ?_,
    setField_again entry derived mem writes live a,
    fun name other => setField_swap entry derived mem writes live written other⟩
  · have holds : p.Holds rt'.heap h a :=
      ⟨set a s, n, true, occupant?_put live _, derived.get_set mem writes a s⟩
    have wf' : rt'.heap.WellFormed := wf.put live _
    obtain ⟨entry', holds'⟩ := after_holds wf' entry derived mem holds spares
    exact givesBack_of_holds (wellFormed_after wf' ops) entry' derived mem holds' accepted
  · by_cases same : k.tenancy = h.tenancy
    · obtain ⟨rfl, other⟩ := elsewhere same
      refine readsSame_of_get wf entry derived live fun q mem' named => ?_
      exact derived.get_set_of_ne mem mem' (named.trans_ne other) writes a s
    · exact readsSame_of_ne wf live _ same name
  · exact (Heap.occupant?_put live _ k).trans (if_neg other)

open Gallery in
/-- A point is written to the middle of a segment. Then it is released, and its slot is used for a copy
of the middle. -/
theorem setField_laws_segment :
    let fields := Segment.fields.map Property.toField
    let members : Members catalog :=
      ((Members.empty.pushField fields[0] rfl).pushField fields[1] rfl).pushField fields[2] rfl
    let entry : ClassEntry catalog :=
      ⟨members, "Segment", catalog.identity .segment, .exclusive, none, none, false⟩
    let zero : Point := ⟨.ofBits 0, .ofBits 0⟩
    let one : Point := ⟨.ofBits 1, .ofBits 1⟩
    let rt : Runtime catalog :=
      ⟨(Registry.empty "segments").pushClass entry rfl rfl, {},
        ⟨#[⟨0, some ⟨.segment, ⟨zero, zero, none⟩, 1, false⟩⟩, ⟨0, some ⟨.point, one, 1, false⟩⟩],
          [], 2⟩⟩
    let h : Handle := ⟨0, 0, catalog.identity .segment⟩
    let k : Handle := ⟨1, 0, catalog.identity .point⟩
    let p := Segment.fields[2]
    let rt' := (rt.perform (.setField h p.name (.object k))).runtime
    rt.heap.Reachable ∧ rt.registry.classOf? h.identity = some entry ∧
      entry.Derived .segment Segment.fields ∧ p ∈ Segment.fields ∧
      (rt.perform (.setField h p.name (.object k))).outcome = .ok .done ∧
      (rt'.after [.release k]).GivesBack rt.heap h p (.object k) ∧
      rt'.ReadsSame rt h "a" ∧ rt'.ReadsSame rt k "x" := by
  intro fields members entry zero one rt h k p rt'
  have reachable : rt.heap.Reachable := by
    let alone : Heap catalog := ⟨#[⟨0, some ⟨.segment, ⟨zero, zero, none⟩, 1, false⟩⟩], [], 1⟩
    have first : Heap.allocate (C := catalog) .segment ⟨zero, zero, none⟩ .empty =
      .ok (h, alone) := rfl
    have second : Heap.allocate (C := catalog) .point one alone = .ok (k, rt.heap) := rfl
    exact ⟨_, .allocate (.allocate (.refl .empty) first) second⟩
  have owner : rt.registry.classOf? h.identity = some entry :=
    Registry.classOf?_eq_some_iff.2 ⟨List.mem_singleton_self entry, rfl⟩
  have derived : entry.Derived .segment Segment.fields := Segment.derived rfl
  have mem : p ∈ Segment.fields := List.getElem_mem _
  have live : rt.heap.occupant? h = some ⟨.segment, ⟨zero, zero, none⟩, 1, false⟩ := rfl
  have accepted : p.type.fromHost rt.config.policy rt.heap (.object k) = .ok (some one) := rfl
  have done : (rt.perform (.setField h p.name (.object k))).outcome = .ok .done :=
    congrArg Step.outcome (perform_setField_of_ok owner derived mem rfl live accepted)
  obtain ⟨back, same, -⟩ := setField_laws reachable (.object k) owner derived mem done
  refine ⟨reachable, owner, derived, mem, done, back _ ?_, same h "a" ?_, same k "x" ?_⟩
  · exact List.forall_mem_singleton.2 fun other => absurd other (by decide)
  · exact fun _ => ⟨rfl, by decide⟩
  · exact fun other => absurd other (by decide)

end Runtime

/-! ## What is read otherwise -/

namespace Gallery

/-- The class of tags. -/
def Tag.entry : ClassEntry catalog where
  toMembers := (((Members.empty.pushField Tag.fields[0].toField rfl).pushField Tag.fields[1].toField
    rfl).pushField Tag.fields[2].toField rfl).pushField Tag.fields[3].toField rfl
  name := "Tag"
  identity := catalog.identity .tag
  sharing := .shared
  copy := none
  constructor := none
  hasTable := false

/-- The class of segments. -/
def Segment.entry : ClassEntry catalog where
  toMembers := ((Members.empty.pushField Segment.fields[0].toField rfl).pushField
    Segment.fields[1].toField rfl).pushField Segment.fields[2].toField rfl
  name := "Segment"
  identity := catalog.identity .segment
  sharing := .exclusive
  copy := none
  constructor := none
  hasTable := false

end Gallery

namespace Runtime

variable {rt : Runtime C} {h : Handle} {e : ClassEntry C} {o : C.Obj} {ps : List (Property C o)}
  {p : Property C o} {s : C.Instance o} {n : Nat} {m : Bool} {v : HostValue}
  {set : p.type.Value → C.Instance o → C.Instance o} {a : p.type.Value}

/-- A runtime with one class. -/
def withClass (e : ClassEntry C) (heap : Heap C) : Runtime C :=
  ⟨(Registry.empty "").pushClass e rfl rfl, {}, heap⟩

theorem classOf?_withClass (e : ClassEntry C) (heap : Heap C) :
    (withClass e heap).registry.classOf? e.identity = some e :=
  Registry.classOf?_eq_some_iff.2 ⟨List.mem_singleton_self e, rfl⟩

/-- Right after a write, the field is read as what becomes of the native value that was written. -/
theorem getField_setField (wf : rt.heap.WellFormed) (entry : rt.registry.classOf? h.identity = some e)
    (derived : e.Derived o ps) (mem : p ∈ ps) (writes : p.set = some set)
    (live : rt.heap.occupant? h = some ⟨o, s, n, m⟩)
    (accepted : p.type.fromHost rt.config.policy rt.heap v = .ok a) :
    let written := rt.perform (.setField h p.name v)
    let read := written.runtime.perform (.getField h p.name)
    written.outcome = .ok .done ∧
      (∀ w after, p.type.toHost a rt.heap = .ok (w, after) → read.outcome = .ok (.value w)) ∧
      ∀ cause, p.type.toHost a rt.heap = .error cause → ∃ fault, read.outcome = .error fault := by
  intro written read
  have done : written = ⟨.ok .done, rt.put h ⟨o, set a s, n, true⟩, []⟩ :=
    perform_setField_of_ok entry derived mem writes live accepted
  have hands : read = finish _ _ _ :=
    (congrArg (fun step : Step C => step.runtime.perform (.getField h p.name)) done).trans
      (perform_getField entry derived mem (occupant?_put live ⟨o, set a s, n, true⟩))
  rw [derived.get_set mem writes, put, Invoker.conclude_put wf live] at hands
  refine ⟨congrArg Step.outcome done, fun w after handed => ?_, fun cause refused => ?_⟩
  · rw [hands, invoker, Invoker.conclude_of_toHost handed]
    rfl
  · rw [hands, Invoker.conclude]
    simp only [refused]
    exact ⟨_, rfl⟩

open Gallery in
/-- A point that was written to the middle of a segment is read as what becomes of a copy. -/
theorem getField_setField_mid {heap : Heap catalog} {k : Handle} {s : Segment} {x : Point}
    (wf : heap.WellFormed) (point : heap.get Exhibit.point k = .ok x)
    (segment : heap.occupant? ⟨0, 0, catalog.identity .segment⟩ = some ⟨.segment, s, n, m⟩) :
    let written := (withClass Segment.entry heap).perform
      (.setField ⟨0, 0, catalog.identity .segment⟩ "mid" (.object k))
    let read := written.runtime.perform (.getField ⟨0, 0, catalog.identity .segment⟩ "mid")
    written.outcome = .ok .done ∧
      (∀ w after, NativeType.toHost (.object Exhibit.point) x heap = .ok (w, after) →
        read.outcome = .ok (.value w)) ∧
      ∀ cause, NativeType.toHost (.object Exhibit.point) x heap = .error cause →
        ∃ fault, read.outcome = .error fault := by
  intro written read
  have live : (withClass Segment.entry heap).heap.occupant? ⟨0, 0, catalog.identity .segment⟩ =
      some ⟨.segment, s, n, m⟩ := segment
  have accepted : Segment.fields[2].type.fromHost .widening heap (.object k) = .ok (some x) := by
    change NativeType.fromHost (C := catalog) _ _ (.option (.object Exhibit.point)) _ = _
    rw [NativeType.fromHost, NativeType.fromHost, point]
    · rfl
    · exact fun absent => by cases absent
  obtain ⟨done, reads⟩ := getField_setField (p := Segment.fields[2]) wf (classOf?_withClass _ _)
    (Segment.derived rfl) (List.getElem_mem _) rfl live accepted
  exact ⟨done, reads⟩

open Gallery in
/-- What is read is not always what was written : a NaN loses the digits that the 32-bit format has not,
in the place of a point in an optional field another one is read, and if no slot is left for that, the
read fails. -/
theorem setField_altered :
    let nan : HostValue := .float (.ofBits 0x7ff8000000000001)
    let quiet : HostValue := .float (.ofBits 0x7ff8000000000000)
    let t : Handle := ⟨0, 0, catalog.identity .tag⟩
    let tag : Tag := ⟨.wrap .u8 0, .ofBits 0, none, false, .wrap .i64 0⟩
    let tags : Runtime catalog :=
      withClass Tag.entry ⟨#[⟨0, some ⟨.tag, tag, 1, false⟩⟩], [], 1⟩
    let weighed := tags.perform (.setField t "weight" nan)
    let h : Handle := ⟨0, 0, catalog.identity .segment⟩
    let k : Handle := ⟨1, 0, catalog.identity .point⟩
    let zero : Point := ⟨.ofBits 0, .ofBits 0⟩
    let few : Heap catalog := ⟨#[⟨0, some ⟨.segment, ⟨zero, zero, none⟩, 1, false⟩⟩,
      ⟨0, some ⟨.point, zero, 1, false⟩⟩], [], 2⟩
    let written (heap : Heap catalog) :=
      (withClass Segment.entry heap).perform (.setField h "mid" (.object k))
    let read (heap : Heap catalog) := (written heap).runtime.perform (.getField h "mid")
    (Tag.entry.Derived .tag Tag.fields ∧ tags.heap.Reachable ∧ weighed.outcome = .ok .done ∧
        (weighed.runtime.perform (.getField t "weight")).outcome = .ok (.value quiet) ∧
        quiet ≠ nan) ∧
      Segment.entry.Derived .segment Segment.fields ∧
      (few.Reachable ∧ (written few).outcome = .ok .done ∧
        ∃ j, (read few).outcome = .ok (.value (.object j)) ∧ j ≠ k) ∧
      ∃ full, full.Reachable ∧ (written full).outcome = .ok .done ∧
        ∃ fault, (read full).outcome = .error fault := by
  intro nan quiet t tag tags weighed h k zero few written read
  have tagged : Tag.entry.Derived .tag Tag.fields := Tag.derived rfl
  have one : tags.heap.Reachable := by
    have first : Heap.allocate (C := catalog) .tag tag .empty = .ok (t, tags.heap) := rfl
    exact ⟨_, .allocate (.refl .empty) first⟩
  have two : few.Reachable := by
    let alone : Heap catalog := ⟨#[⟨0, some ⟨.segment, ⟨zero, zero, none⟩, 1, false⟩⟩], [], 1⟩
    have first : Heap.allocate (C := catalog) .segment ⟨zero, zero, none⟩ .empty =
      .ok (h, alone) := rfl
    have second : Heap.allocate (C := catalog) .point zero alone = .ok (k, few) := rfl
    exact ⟨_, .allocate (.allocate (.refl .empty) first) second⟩
  refine ⟨⟨tagged, one, ?_⟩, Segment.derived rfl, ⟨two, ?_⟩, ?_⟩
  · have accepted : Tag.fields[1].type.fromHost .widening tags.heap nan =
      .ok (Binary.nan : Binary32) := rfl
    have live : tags.heap.occupant? t = some ⟨.tag, tag, 1, false⟩ := rfl
    obtain ⟨done, reads, -⟩ := getField_setField one.wellFormed (classOf?_withClass _ _) tagged
      (List.getElem_mem _) rfl live accepted
    exact ⟨done, reads _ _ rfl, by decide⟩
  · obtain ⟨done, reads, -⟩ := getField_setField_mid (k := k) two.wellFormed rfl rfl
    exact ⟨done, _, reads _ _ rfl, by decide⟩
  · obtain ⟨full, reachable, noRoom, kept⟩ := Heap.exists_full two rfl (by decide) .point zero
    have point : full.get Exhibit.point k = .ok zero := Heap.get_of_live (kept k _ rfl) rfl
    obtain ⟨done, -, fails⟩ := getField_setField_mid reachable.wellFormed point (kept h _ rfl)
    rw [Heap.HasRoom, not_or, not_not] at noRoom
    refine ⟨full, reachable, done, fails .heapExhausted ?_⟩
    rw [NativeType.toHost, Heap.allocate, noRoom.1]
    simp [noRoom.2, bind, Except.bind]

end Runtime

end NativeBridge
