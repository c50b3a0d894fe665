import NativeBridge.Proofs.Runtime.Access
import NativeBridge.Proofs.Runtime.Holders

/-!
# Handles and the types behind them

A handle carries the identity of a type, and that is where a runtime looks for its class; the heap
looks at the tenancy only. For handles that a runtime has issued the two agree : they are handed out
with the identity of the type of a new instance (`Runtime.newborn`), and an instance never changes
its type, nor does a tenancy ever get another (`Runtime.Genuine`). A forged handle may carry any
identity, and what a runtime says of its type is then not the type of the instance, as the heap would
say it (`Heap.typeName`). Wrappers, though, look for the receiver by their own type.

`Runtime.types_agree` : if different types have different identities, no access through any handle
gets hold of an instance of another type than the one the class was generated for, and through
handles that were issued no access ever meets one.
-/

namespace NativeBridge

variable {C : Catalog}

namespace Runtime

variable {rt : Runtime C} {op : Operation} {h k : Handle} {x : Occupant C}

/-! ## Sound runtimes -/

/-- The bindings are generated, and the free slots of the heap are vacant. -/
structure Sound (rt : Runtime C) : Prop where
  generated : rt.registry.Generated
  wellFormed : rt.heap.WellFormed

theorem sound_empty {registry : Registry C} (generated : registry.Generated) (config : Config) :
    (⟨registry, config, .empty⟩ : Runtime C).Sound :=
  ⟨generated, Heap.wellFormed_empty⟩

theorem Sound.perform (sound : rt.Sound) (op : Operation) : (rt.perform op).runtime.Sound :=
  ⟨(rt.perform_registry op).symm ▸ sound.generated,
    (rt.perform_evolves op).wellFormed sound.wellFormed⟩

/-- Runs keep a runtime sound. -/
theorem Sound.after (sound : rt.Sound) (ops : List Operation) : (rt.after ops).Sound :=
  ⟨(rt.after_registry ops).symm ▸ sound.generated, wellFormed_after sound.wellFormed ops⟩

/-! ## Handles that were issued -/

/-- A handle that a call issues is that of a new instance. -/
theorem Dispatches.newborn {d : Dispatch C} (dispatches : rt.Dispatches op d)
    (sound : rt.Sound) (returned : (d.effect rt).outcome = .ok (.object k)) :
    ∃ o v, (d.effect rt).heap.occupant? k = some ⟨o, v, 1, false⟩ ∧ k.identity = C.identity o := by
  obtain ⟨c, wraps, params, -⟩ := dispatches.wraps sound.generated
  obtain ⟨values, outcome, between, v, -, applies, handed⟩ :=
    (Dispatch.behaves wraps params).ran_of_ok returned
  obtain ⟨-, none⟩ | ⟨o, w, k', allocated, same⟩ := NativeType.toHost_eq_ok _ v handed
  · cases none
  · cases same
    have wf := applies.wellFormed sound.wellFormed
    refine ⟨o, w, ?_, Heap.identity_of_allocate allocated⟩
    rw [Heap.occupant?_allocate wf.free_vacant allocated, if_pos rfl]

/-- A handle that an operation issues is that of a new instance, and carries the identity of its
type. -/
theorem newborn (sound : rt.Sound) (issued : k ∈ rt.issued op) :
    ∃ o v, (rt.perform op).runtime.heap.occupant? k = some ⟨o, v, 1, false⟩ ∧
      k.identity = C.identity o := by
  cases rt.perform_moves op with
  | still _ _ none =>
    rw [none] at issued
    cases issued
  | @called d dispatch heap =>
    rw [heap]
    have getting : ∀ g name v, op ≠ .setField g name v := by
      rintro g name v rfl
      rw [issued_setField sound.generated] at issued
      cases issued
    rw [issued_of_candid sound.generated dispatch getting, Option.mem_toList] at issued
    obtain ⟨result, answered, object⟩ := Option.bind_eq_some_iff.1 issued
    cases ended : (d.effect rt).outcome with
    | ok v =>
      rw [ended] at answered
      cases answered
      cases result with
      | object j =>
        cases object
        exact (dispatch?_eq_some_iff.1 dispatch).newborn sound ended
      | none | bool | int | float | str => cases object
    | error e =>
      rw [ended] at answered
      cases answered
    | panic p =>
      rw [ended] at answered
      cases answered
  | misconstructed member present _ returned foreign =>
    obtain ⟨j, rfl, same⟩ := returns_own (sound.generated.classes _ member) present returned
    exact absurd same (foreign j rfl)
  | released operation | shared operation =>
    subst operation
    cases issued
  | @copied _ j o v _ allocate only =>
    rw [only, List.mem_singleton] at issued
    subst issued
    refine ⟨o, v, ?_, Heap.identity_of_allocate allocate⟩
    rw [Heap.occupant?_allocate sound.wellFormed.free_vacant allocate, if_pos rfl]

/-- The handle has been issued, and as long as its instance is live it carries the identity of its
type. -/
structure Genuine (rt : Runtime C) (h : Handle) : Prop where
  issued : rt.heap.Issued h.tenancy
  identity : ∀ x, rt.heap.occupant? h = some x → h.identity = C.identity x.type

/-- A handle is genuine when it is issued. -/
theorem genuine_of_issued (sound : rt.Sound) (issued : k ∈ rt.issued op) :
    (rt.perform op).runtime.Genuine k where
  issued := ((rt.perform_evolves op).issued_iff sound.wellFormed _).2
    (Or.inr (List.mem_map_of_mem issued))
  identity _ live := (rt.perform_evolves op).identity_of_issued sound.wellFormed issued live

/-- Genuine handles stay genuine : what lives under an issued tenancy has lived there before. -/
theorem Genuine.perform (genuine : rt.Genuine h) (sound : rt.Sound) (op : Operation) :
    (rt.perform op).runtime.Genuine h := by
  refine ⟨issued_after sound.wellFormed genuine.issued [op], fun y live => ?_⟩
  cases perform_fate sound.wellFormed live with
  | new fresh => exact absurd genuine.issued fresh
  | kept before type | shared before type | released before type =>
    rw [genuine.identity _ before, type]

/-- A genuine handle stays genuine, also when its instance has gone. -/
theorem Genuine.after (genuine : rt.Genuine h) (sound : rt.Sound) (ops : List Operation) :
    (rt.after ops).Genuine h := by
  induction ops generalizing rt with
  | nil => exact genuine
  | cons op ops ih => exact ih (genuine.perform sound op) (sound.perform op)

/-- A handle that was handed out is genuine. -/
theorem genuine_of_handedOut (sound : rt.Sound) {ops : List Operation}
    (handed : k ∈ (rt.journal ops).handedOut) : (rt.after ops).Genuine k where
  issued := ((rt.after_evolves ops).issued_iff sound.wellFormed _).2
    (Or.inr (List.mem_map_of_mem (mem_issuedIn_of_handedOut handed)))
  identity _ live := (rt.after_evolves ops).identity_of_issued sound.wellFormed
    (mem_issuedIn_of_handedOut handed) live

end Runtime

/-! ## Classes of one type -/

/-- Fields, copies, methods and constructor of the class are generated from this one type. -/
structure ClassEntry.GeneratedFor (e : ClassEntry C) (o : C.Obj) : Prop where
  declared : ∃ (copies : Bool) (ps : List (Property C o)), e.declared = .ofProperties o copies ps
  methods : ∀ m ∈ e.methods, m.Generated o
  constructor : ∀ k ∈ e.constructor, k.Generated o

/-- A class that was generated for a type has the name of it. -/
theorem ClassEntry.GeneratedFor.name {e : ClassEntry C} {o : C.Obj} (made : e.GeneratedFor o) :
    e.name = C.name o := by
  obtain ⟨copies, ps, same⟩ := made.declared
  exact congrArg ClassMeta.name same

/-- If different types have different identities, a generated class is generated from one type. -/
theorem ClassEntry.Generated.generatedFor {e : ClassEntry C} (generated : e.Generated)
    (distinct : Function.Injective C.identity) {o : C.Obj} (identity : C.identity o = e.identity) :
    e.GeneratedFor o := by
  obtain ⟨o', copies, ps, same⟩ := generated.declared
  obtain ⟨o'', identity'', methods, constructor⟩ := generated.table
  have identity' : e.identity = C.identity o' := congrArg ClassMeta.identity same
  obtain rfl := distinct (identity.trans identity')
  obtain rfl := distinct (identity.trans identity''.symm)
  exact ⟨⟨copies, ps, same⟩, methods, constructor⟩

/-! ## Accesses -/

/-- The call has the right number of arguments and ends for want of a receiver : it has none, or one
of another type. -/
def Dispatch.MissesReceiver (d : Dispatch C) (rt : Runtime C) : Prop :=
  d.args.length = d.site.params.length ∧
    ∃ reason, (d.native.code.run ⟨d.args, d.receiver, rt.config.policy⟩ { heap := rt.heap }).1 =
      .error (.invalidReceiver reason)

namespace Runtime

variable {rt : Runtime C} {op : Operation} {h : Handle} {x : Occupant C}

/-- Nothing is called on a handle without a class. -/
theorem Dispatches.exists_classFor {d : Dispatch C} (dispatches : rt.Dispatches op d)
    (target : op.target? = some h) : ∃ e, rt.classFor h = .ok e := by
  cases dispatches with
  | call | construct | constructWith => cases target
  | getField entry | setField entry | callMethod entry =>
    cases target
    exact ⟨_, entry⟩

/-- A use that succeeds has found an instance of a type with the identity of the handle. -/
theorem houses_of_uses {args : List HostValue} (generated : rt.registry.Generated)
    (uses : op.Uses h args) {r : Response} (ok : (rt.perform op).outcome = .ok r) :
    ∃ e o, rt.classFor h = .ok e ∧ C.identity o = h.identity ∧ rt.heap.Houses h o := by
  obtain ⟨e, dispatch, refused⟩ | ⟨answer, d, dispatch, relayed⟩ := rt.uses_cases uses
  · rw [refused] at ok
    cases ok
  · have dispatches := dispatch?_eq_some_iff.1 dispatch
    obtain ⟨e, entry⟩ := dispatches.exists_classFor uses.target
    obtain ⟨v, ended⟩ := dispatches.exists_ok ok
    obtain ⟨c, wraps, params, receiver⟩ := dispatches.wraps generated
    rw [dispatches.receiver, uses.target, Option.map_some, Option.map_eq_some_iff] at receiver
    obtain ⟨o, wants, identity⟩ := receiver
    obtain ⟨k, named, houses⟩ := (Dispatch.behaves wraps params).houses ended wants
    rw [dispatches.receiver, uses.target] at named
    cases named
    exact ⟨e, o, entry, identity, houses⟩

/-- A copy that succeeds has found an instance of a type with the identity of the handle, has cloned
it, and has moved the clone into the heap. -/
theorem allocate_of_copy (generated : rt.registry.Generated) {r : Response}
    (ok : (rt.perform (.copy h)).outcome = .ok r) :
    ∃ e o v w k, rt.classFor h = .ok e ∧ C.identity o = h.identity ∧ rt.heap.get o h = .ok v ∧
      C.clone o v = .ok w ∧ rt.heap.allocate o w = .ok (k, (rt.perform (.copy h)).runtime.heap) ∧
        r = .handle k := by
  obtain ⟨k, answered, rfl⟩ := exists_ok_of_finish ok
  rw [perform, finish]
  cases entry : rt.classFor h with
  | error cause =>
    rw [copy, entry] at answered
    cases answered
  | ok e =>
    obtain ⟨o, copies, ps, declared⟩ := (generated.classes _ (mem_of_classFor entry)).declared
    have identity : e.identity = C.identity o := congrArg ClassMeta.identity declared
    have rule : e.copy = if copies then some (.ofClone o) else none :=
      congrArg ClassMeta.copy declared
    cases copies with
    | false =>
      simp [copy, entry, rule, refuse] at answered
    | true =>
      have effect : rt.copy h = ⟨((CopyRule.ofClone o).apply rt.heap h).1.mapError
          (.ofConversion e.name e.name), ((CopyRule.ofClone o).apply rt.heap h).2, []⟩ := by
        rw [copy, entry]
        simp [rule]
      rw [effect] at answered ⊢
      cases applied : ((CopyRule.ofClone o).apply rt.heap h).1 with
      | ok j =>
        rw [applied] at answered
        cases answered
        obtain ⟨v, w, found, copied, allocated⟩ := CopyRule.allocate_of_apply applied
        exact ⟨e, o, v, w, k, rfl, identity.symm.trans (identity_of_classFor entry), found,
          CopyRule.duplicate_ofClone_eq_ok copied, allocated, rfl⟩
      | error e' => simp [applied, Outcome.mapError] at answered
      | panic p => simp [applied, Outcome.mapError] at answered

/-- The class in which an access through the handle has found its instance is generated from the
type of that instance. -/
theorem generatedFor_of_classFor {e : ClassEntry C} {o : C.Obj} (generated : rt.registry.Generated)
    (distinct : Function.Injective C.identity) (entry : rt.classFor h = .ok e)
    (identity : C.identity o = h.identity) : e.GeneratedFor o :=
  (generated.classes e (mem_of_classFor entry)).generatedFor distinct
    (identity.trans (identity_of_classFor entry).symm)

/-- If the handle that an operation is about carries the identity of the type of its instance, the
call does not end for want of a receiver. -/
theorem Dispatches.not_missesReceiver {d : Dispatch C} (dispatches : rt.Dispatches op d)
    (generated : rt.registry.Generated) (distinct : Function.Injective C.identity)
    (own : ∀ h, op.target? = some h →
      ∃ x, rt.heap.occupant? h = some x ∧ h.identity = C.identity x.type) :
    ¬d.MissesReceiver rt := by
  rintro ⟨arity, reason, missed⟩
  obtain ⟨c, wraps, params, receiver⟩ := dispatches.wraps generated
  rw [params, Callable.paramMetas, List.length_map] at arity
  refine wraps.run_ne_invalidReceiver arity (fun o wants => ?_) missed
  rw [wants, Option.map_some, eq_comm, Option.map_eq_some_iff] at receiver
  obtain ⟨h, named, carries⟩ := receiver
  obtain ⟨x, live, identity⟩ := own h (dispatches.receiver.symm.trans named)
  exact ⟨h, named, x, live, distinct (identity.symm.trans carries)⟩

/-- A genuine handle belongs to the class with the name of the type of its instance. -/
theorem typeName_of_typeOf {name : String} (generated : rt.registry.Generated)
    (distinct : Function.Injective C.identity) (genuine : rt.Genuine h)
    (answered : rt.typeOf h = .ok name) : rt.heap.typeName h = .ok name := by
  cases entry : rt.classFor h with
  | error cause =>
    rw [typeOf, entry] at answered
    cases answered
  | ok e =>
    rw [typeOf, entry] at answered
    cases answered
    obtain ⟨x, live⟩ := (classFor_eq_ok_iff.1 entry).1
    have made := generatedFor_of_classFor generated distinct entry (genuine.identity x live).symm
    rw [Heap.typeName, Heap.lookup, live, made.name]
    rfl

/-- In a run on an empty heap, if different types have different identities : whoever succeeds in
reading or writing a field through a handle, in calling a method or in copying, has found an
instance of the type that the class is generated for, whatever the handle says, and an object that
is accepted for a parameter is of the type of the parameter. A handle that was handed out never
makes a call end for want of a receiver, and it is said to be of the class that its instance has the
name of. -/
theorem types_agree (registry : Registry C) (generated : registry.Generated)
    (distinct : Function.Injective C.identity) (config : Config) (ops : List Operation) (h : Handle) :
    let start : Runtime C := ⟨registry, config, .empty⟩
    let rt := start.after ops
    (∀ op, (op = .copy h ∨ ∃ args, op.Uses h args) → ∀ r, (rt.perform op).outcome = .ok r →
        ∃ e o, rt.classFor h = .ok e ∧ e.GeneratedFor o ∧ rt.heap.Houses h o) ∧
      (∀ (t : NativeType C) policy v, t.fromHost policy rt.heap (.object h) = .ok v →
        ∃ o, t.content = .object o ∧ rt.heap.Houses h o) ∧
      (h ∈ (start.journal ops).handedOut →
        (∀ op d, op.target? = some h ∨ op.target? = none → rt.dispatch? op = some d →
            ¬d.MissesReceiver rt) ∧
          ∀ name, rt.typeOf h = .ok name → rt.heap.typeName h = .ok name) := by
  intro start rt
  have sound : start.Sound := sound_empty generated config
  have same : rt.registry.Generated := (sound.after ops).generated
  refine ⟨?_, fun t policy v => NativeType.houses_of_fromHost, fun issued => ?_⟩
  · rintro op (rfl | ⟨args, uses⟩) r ok
    · obtain ⟨e, o, v, w, k, entry, identity, found, -⟩ := allocate_of_copy same ok
      exact ⟨e, o, entry, generatedFor_of_classFor same distinct entry identity,
        Heap.houses_iff.2 ⟨v, found⟩⟩
    · obtain ⟨e, o, entry, identity, houses⟩ := houses_of_uses same uses ok
      exact ⟨e, o, entry, generatedFor_of_classFor same distinct entry identity, houses⟩
  · have genuine : rt.Genuine h := genuine_of_handedOut sound issued
    refine ⟨fun op d about dispatch => ?_, fun name => typeName_of_typeOf same distinct genuine⟩
    have dispatches := dispatch?_eq_some_iff.1 dispatch
    refine dispatches.not_missesReceiver same distinct fun k target => ?_
    obtain target' | none := about
    · cases target.symm.trans target'
      obtain ⟨e, entry⟩ := dispatches.exists_classFor target
      obtain ⟨x, live⟩ := (classFor_eq_ok_iff.1 entry).1
      exact ⟨x, live, genuine.identity x live⟩
    · cases target.symm.trans none

end Runtime

/-! ## A mint -/

namespace Gallery

/-- Different types of the gallery have different identities. -/
theorem identity_injective : Function.Injective catalog.identity := by
  have nodup : (Exhibit.all.map catalog.identity).Nodup := by decide +kernel
  have all : ∀ o : Exhibit, o ∈ Exhibit.all := by
    rintro (_ | _) <;> decide
  exact fun a b same => List.inj_on_of_nodup_map nodup (all a) (all b) same

namespace Mint

/-- The count, which the host may write. -/
def count : Property catalog .counter :=
  field .counter "count" (.int .i64) (·.count) (some fun count _ => ⟨count⟩)

/-- Counts on by a number. A negative one is counted, too, but reported. -/
def advance : Callable catalog :=
  changing .counter [⟨"by", .int .i64⟩] .unit fun c (n, ()) =>
    (⟨.wrap .i64 (c.count.val + n.val)⟩, if n.val < 0 then .error "backwards" else .ok ())

/-- A counter that is one ahead. -/
def next : Callable catalog :=
  copying .counter [] (.object .counter) fun c () => .ok ⟨.wrap .i64 (c.count.val + 1)⟩

def counters : ClassEntry catalog where
  toMembers := ((Members.empty.pushField count.toField rfl).pushMethod
    (advance.toMethod .counter "advance") rfl).pushMethod (next.toMethod .counter "next") rfl
  name := "Counter"
  identity := catalog.identity .counter
  sharing := .shared
  copy := some (.ofClone .counter)
  hasTable := true

/-- Functions that make tokens and counters, and the class of the counters. -/
def registry : Registry catalog :=
  (((Registry.empty "mint").pushFunction (Token.new.toFunction "token") rfl).pushFunction
    (Counter.new.toFunction "counter") rfl).pushClass counters rfl rfl

theorem generated : registry.Generated where
  functions := List.forall_mem_cons.2 ⟨⟨"token", Token.new, trivial, rfl⟩,
    List.forall_mem_singleton.2 ⟨"counter", Counter.new, trivial, rfl⟩⟩
  classes := List.forall_mem_singleton.2
    { declared := ⟨.counter, true, [count], rfl⟩
      table := ⟨Exhibit.counter, rfl, List.forall_mem_cons.2 ⟨⟨"advance", advance, rfl, rfl⟩,
        List.forall_mem_singleton.2 ⟨"next", next, rfl, rfl⟩⟩, nofun⟩ }

/-- The mint with nothing made. -/
def start : Runtime catalog := ⟨registry, {}, .empty⟩

/-- A token is made and goes, a counter takes its place, and another token is made. -/
def reuse : List Operation :=
  let seven : HostValue := .int (.wrap .i64 7)
  [.call "token" [seven], .release ⟨0, 0, .empty⟩, .call "counter" [seven], .call "token" [seven]]

theorem after_reuse :
    start.after reuse = ⟨registry, {}, ⟨#[⟨1, some ⟨.counter, ⟨.wrap .i64 7⟩, 1, false⟩⟩,
      ⟨0, some ⟨.token, ⟨.wrap .i64 7⟩, 1, false⟩⟩], [], 2⟩⟩ :=
  rfl

theorem classOf?_counter : registry.classOf? (catalog.identity .counter) = some counters :=
  Registry.classOf?_eq_some_iff.2 ⟨List.mem_singleton_self counters, rfl⟩

theorem handedOut_counter :
    (⟨0, 1, catalog.identity .counter⟩ : Handle) ∈ (start.journal reuse).handedOut :=
  List.mem_cons_of_mem _ (List.mem_cons_self ..)

theorem occupant?_counter :
    (start.after reuse).heap.occupant? ⟨0, 1, catalog.identity .counter⟩ =
      some ⟨.counter, ⟨.wrap .i64 7⟩, 1, false⟩ := by
  rw [after_reuse]
  rfl

theorem classFor_counter :
    (start.after reuse).classFor ⟨0, 1, catalog.identity .counter⟩ = .ok counters :=
  Runtime.classFor_of_live classOf?_counter occupant?_counter

end Mint

end Gallery

namespace Runtime

open Gallery in
/-- To the handle of the counter belongs the class of that name. The handle of the second token is
forged to say that it is a counter. The runtime repeats this, against what its heap says of the same
handle, but no count can be read. -/
theorem types_agree_forged :
    let rt := Mint.start.after Mint.reuse
    let h : Handle := ⟨0, 1, catalog.identity .counter⟩
    let forged : Handle := ⟨1, 0, catalog.identity .counter⟩
    Mint.registry.Generated ∧ Function.Injective catalog.identity ∧
      h ∈ (Mint.start.journal Mint.reuse).handedOut ∧ rt.typeOf h = .ok "Counter" ∧
      rt.heap.typeName h = .ok "Counter" ∧ rt.typeOf forged = .ok "Counter" ∧
      rt.heap.typeName forged = .ok "Token" ∧
      ∀ r, (rt.perform (.getField forged "count")).outcome ≠ .ok r := by
  intro rt h forged
  have live : rt.heap.occupant? forged = some ⟨.token, ⟨.wrap .i64 7⟩, 1, false⟩ := by
    rw [show rt = _ from Mint.after_reuse]
    rfl
  have found : rt.classFor forged = .ok Mint.counters := classFor_of_live Mint.classOf?_counter live
  have typeOf : rt.typeOf h = .ok "Counter" :=
    congrArg (Except.map ClassEntry.name) Mint.classFor_counter
  have typeOf' : rt.typeOf forged = .ok "Counter" := congrArg (Except.map ClassEntry.name) found
  have name' : rt.heap.typeName forged = .ok "Token" := by
    rw [Heap.typeName, Heap.lookup, live]
    rfl
  obtain ⟨-, -, own⟩ := types_agree _ Mint.generated identity_injective {} Mint.reuse h
  obtain ⟨accesses, -⟩ := types_agree _ Mint.generated identity_injective {} Mint.reuse forged
  have issued : h ∈ (Mint.start.journal Mint.reuse).handedOut := Mint.handedOut_counter
  refine ⟨Mint.generated, identity_injective, issued, typeOf, (own issued).2 _ typeOf, typeOf',
    name', fun r ok => ?_⟩
  obtain ⟨e, o, entry, made, x, there, rfl⟩ := accesses _ (Or.inr ⟨[], .getField "count"⟩) r ok
  cases found.symm.trans entry
  cases live.symm.trans there
  exact absurd made.name (by decide)

end Runtime

end NativeBridge
