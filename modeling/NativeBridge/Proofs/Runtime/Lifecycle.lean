import NativeBridge.Proofs.Runtime.Typing

/-!
# States of instances

An instance is constructed, then perhaps mutated, then reclaimed. `Runtime.Alters` tells which
operations make it mutated : a write to one of its fields that succeeds, and a call of a mutating
method of its type whose arguments all convert, however that call ends. These are the operations in
whose call native code gets the instance for changing (`Runtime.alters_iff`).

`Runtime.Aftermath` is what one operation leaves of an instance. It is reclaimed with its last
holder, an altered instance may hold another value, and otherwise only the holders are another
number.

`Runtime.lifecycle` : the state that a runtime tells of a handle that it has issued is constructed
at first, moves at these operations only, and never goes back. It is a state of the tenancy : a
forged handle of the same tenancy cannot alter the instance, but it can release it.
-/

namespace NativeBridge

variable {C : Catalog}

/-- States in their order. -/
def Lifecycle.rank : Lifecycle → Nat
  | constructed => 0
  | mutated => 1
  | reclaimed => 2

theorem Lifecycle.rank_le_reclaimed (s : Lifecycle) : s.rank ≤ reclaimed.rank := by
  cases s <;> decide

theorem Occupant.rank_state_le (x : Occupant C) : x.state.rank ≤ Lifecycle.mutated.rank := by
  rw [state]
  cases x.mutated <;> decide

namespace Runtime

/-- The operation writes a field of the instance behind the handle, with success, or calls a
mutating method of its type with arguments that all convert. -/
inductive Alters (rt : Runtime C) : Operation → Handle → Prop
  | field {h : Handle} {name : String} {v : HostValue}
      (done : (rt.perform (.setField h name v)).outcome = .ok .done) :
      Alters rt (.setField h name v) h
  | method {h : Handle} {name n : String} {args : List HostValue} {e : ClassEntry C} {o : C.Obj}
      {c : Callable C} {values : Arguments c.params} (entry : rt.classFor h = .ok e)
      (method : e.method name = .ok (c.toMethod o n)) (own : c.IsMethodOf o)
      (mutating : c.mode o = .mutating)
      (converts : Converts rt.config.policy rt.heap c.params args values)
      (houses : rt.heap.Houses h o) : Alters rt (.callMethod h name args) h

variable {rt : Runtime C} {op : Operation} {h : Handle} {x : Occupant C}

/-- Only an operation on a handle alters what is behind it. -/
theorem Alters.uses (alters : rt.Alters op h) : ∃ args, op.Uses h args := by
  cases alters with
  | field => exact ⟨_, .setField _ _⟩
  | method => exact ⟨_, .callMethod _ _⟩

/-! ## Receivers got for changing -/

/-- The call of a setter gets its receiver for changing if it succeeds, and not otherwise. -/
theorem Dispatches.changes_iff_done {d : Dispatch C} {name : String} {v : HostValue}
    (dispatches : rt.Dispatches (.setField h name v) d) (generated : rt.registry.Generated) :
    (d.transcript rt).changes = true ↔ (rt.perform (.setField h name v)).outcome = .ok .done := by
  have dispatch := dispatch?_eq_some_iff.2 dispatches
  obtain ⟨e, refused, -⟩ | ⟨d', dispatch', relayed⟩ := rt.setField_cases h name v
  · cases refused.symm.trans dispatch
  cases dispatch'.symm.trans dispatch
  rw [relayed]
  obtain ⟨o, p, set, wraps, params⟩ : ∃ (o : C.Obj) (p : Property C o) (set : _),
      (p.writer set).Wraps d.native.code ∧ d.site.params = (p.writer set).paramMetas := by
    cases dispatches with
    | setField entry field writable =>
      obtain ⟨o, p, -, rfl⟩ := (generated.classes _ (mem_of_classFor entry)).field
        (ClassEntry.mem_of_field field)
      obtain ⟨set, code⟩ := Property.setter_of_toField writable
      exact ⟨o, p, set, code ▸ .setter p set, rfl⟩
  rw [Dispatch.changes_iff wraps params]
  refine ⟨?_, fun done => ?_⟩
  · rintro ⟨r, g, values, k, body, converts, named, x, live, rfl⟩
    cases body
    have rule : (p.writer set).Behaves rt.invoker d.site d.receiver d.args rt.heap
        (rt.invoker.conclude _ .unit (.ok ()) _) := .ran converts (.changing _ named live)
    rw [Dispatch.effect, rule.invoke wraps params]
    rfl
  · obtain ⟨result, ok, -⟩ := exists_ok_of_finish done
    obtain ⟨values, outcome, between, w, converts, applies, -⟩ :=
      (Dispatch.behaves wraps params).ran_of_ok ok
    obtain ⟨k, named, houses⟩ := applies.houses rfl
    exact ⟨o, _, values, k, rfl, converts, named, houses⟩

/-- An instance is altered by the operations in whose call native code gets it for changing. -/
theorem alters_iff (generated : rt.registry.Generated) :
    rt.Alters op h ↔
      ∃ d, rt.dispatch? op = some d ∧ d.receiver = some h ∧ (d.transcript rt).changes = true := by
  refine ⟨fun alters => ?_, ?_⟩
  · cases alters with
    | @field _ name v done =>
      obtain ⟨e, -, refused⟩ | ⟨d, dispatch, -⟩ := rt.setField_cases h name v
      · rw [refused] at done
        cases done
      · have dispatches := dispatch?_eq_some_iff.1 dispatch
        exact ⟨d, dispatch, dispatches.receiver, (dispatches.changes_iff_done generated).2 done⟩
    | @method _ _ _ _ _ _ c values entry method own mutating converts houses =>
      obtain ⟨r, g, body⟩ := Callable.mode_eq_mutating_iff.1 mutating
      obtain rfl := own.type_eq body
      exact ⟨_, dispatch?_eq_some_iff.2 (.callMethod entry method), rfl,
        (Dispatch.changes_iff (.callable c) rfl).2 ⟨r, g, values, h, body, converts, rfl, houses⟩⟩
  · rintro ⟨d, dispatch, named, changes⟩
    cases dispatch?_eq_some_iff.1 dispatch with
    | call | construct | constructWith => cases named
    | getField entry field =>
      obtain ⟨o, p, -, rfl⟩ := (generated.classes _ (mem_of_classFor entry)).field
        (ClassEntry.mem_of_field field)
      obtain ⟨r, g, values, k, body, -⟩ := (Dispatch.changes_iff (.getter p) rfl).1 changes
      cases body
    | setField =>
      cases named
      exact .field (((dispatch?_eq_some_iff.1 dispatch).changes_iff_done generated).1 changes)
    | callMethod entry method =>
      cases named
      obtain ⟨o, n, c, -, own, rfl⟩ := (generated.classes _ (mem_of_classFor entry)).method
        (ClassEntry.mem_of_method method)
      obtain ⟨r, g, values, k, body, converts, named, houses⟩ :=
        (Dispatch.changes_iff (.callable c) rfl).1 changes
      cases named
      exact .method entry method own (Callable.mode_eq_mutating_iff.2 ⟨r, g, body⟩) converts
        (own.type_eq body ▸ houses)

/-- If different types have different identities, a mutating method of the class of a genuine handle
is always one of the type of its instance. -/
theorem alters_callMethod_iff (generated : rt.registry.Generated)
    (distinct : Function.Injective C.identity) (genuine : rt.Genuine h) {e : ClassEntry C}
    {m : MethodMeta C} {name : String} (entry : rt.classFor h = .ok e)
    (method : e.method name = .ok m) :
    ∃ (o : C.Obj) (n : String) (c : Callable C), c.IsMethodOf o ∧ m = c.toMethod o n ∧
      ∀ args, rt.Alters (.callMethod h name args) h ↔ m.receiver = .mutating ∧
        ∃ values, Converts rt.config.policy rt.heap c.params args values := by
  obtain ⟨o, n, c, identity, own, rfl⟩ := (generated.classes _ (mem_of_classFor entry)).method
    (ClassEntry.mem_of_method method)
  obtain ⟨x, live⟩ := (classFor_eq_ok_iff.1 entry).1
  obtain rfl : x.type = o := distinct <|
    (genuine.identity x live).symm.trans ((identity_of_classFor entry).symm.trans identity.symm)
  refine ⟨x.type, n, c, own, rfl, fun args => ⟨fun alters => ?_, ?_⟩⟩
  · obtain ⟨d, dispatch, -, changes⟩ := (alters_iff generated).1 alters
    cases dispatch.symm.trans (dispatch?_eq_some_iff.2 (.callMethod entry method))
    obtain ⟨r, g, values, k, body, converts, -⟩ :=
      (Dispatch.changes_iff (.callable c) rfl).1 changes
    exact ⟨Callable.mode_eq_mutating_iff.2 ⟨r, g, body⟩, values, converts⟩
  · rintro ⟨mutating, values, converts⟩
    exact .method entry method own mutating converts ⟨x, live, rfl⟩

/-! ## One operation -/

/-- What an operation leaves of a live instance. -/
inductive Aftermath (rt : Runtime C) (op : Operation) (h : Handle) (x : Occupant C) : Prop
  | reclaimed (spares : ¬rt.Alters op h) (last : (rt.entry op).reclaimed? = some h.tenancy)
      (after : (rt.perform op).runtime.heap.occupant? h = none)
  | altered {v : C.Instance x.type} (alters : rt.Alters op h)
      (keeps : (rt.entry op).reclaimed? = none)
      (after : (rt.perform op).runtime.heap.occupant? h =
        some { x with value := v, mutated := true })
  | counted {n : Nat} (spares : ¬rt.Alters op h) (keeps : (rt.entry op).reclaimed? ≠ some h.tenancy)
      (told : (rt.entry op).shared? = some h.tenancy ∨ (rt.entry op).released? = some h.tenancy)
      (after : (rt.perform op).runtime.heap.occupant? h = some { x with holders := n })
  | untouched (spares : ¬rt.Alters op h) (keeps : (rt.entry op).reclaimed? ≠ some h.tenancy)
      (after : (rt.perform op).runtime.heap.occupant? h = some x)

theorem aftermath_of_shared (live : rt.heap.occupant? h = some x)
    (shared : (rt.entry op).shared? = some h.tenancy) : rt.Aftermath op h x := by
  obtain ⟨y, before, -, after⟩ := occupant?_of_shared shared
  cases before.symm.trans live
  obtain ⟨k, r, told, same⟩ := Entry.shared?_eq_some_iff.1 shared
  refine .counted (fun alters => ?_) (told ▸ nofun) (Or.inl shared) after
  obtain ⟨rfl, -⟩ := Entry.mk.inj told
  cases alters

/-- A successful release takes the instance away with its last holder. -/
theorem aftermath_of_released (live : rt.heap.occupant? h = some x)
    (released : (rt.entry op).released? = some h.tenancy) : rt.Aftermath op h x := by
  obtain ⟨y, before, after⟩ := occupant?_of_released released
  cases before.symm.trans live
  obtain ⟨k, last, told, same⟩ := Entry.released?_eq_some_iff.1 released
  obtain ⟨rfl, answered⟩ := Entry.mk.inj told
  have spares : ¬rt.Alters (.release k) h := by rintro ⟨⟩
  have outcome := outcome_release ((Heap.occupant?_congr _ same).trans live)
  split_ifs at after with others
  · refine .counted spares ?_ (Or.inr released) after
    rw [Runtime.entry, outcome, decide_eq_false (Nat.ne_of_gt others)]
    rintro ⟨⟩
  · refine .reclaimed spares ?_ after
    rw [Runtime.entry, outcome, decide_eq_true (Nat.eq_zero_of_not_pos others), ← same]
    rfl

/-- A use of an instance alters it, or leaves it as it is. -/
theorem occupant?_of_uses (sound : rt.Sound) (live : rt.heap.occupant? h = some x)
    {args : List HostValue} (uses : op.Uses h args) :
    (rt.Alters op h ∧ ∃ v : C.Instance x.type,
        (rt.perform op).runtime.heap.occupant? h = some { x with value := v, mutated := true }) ∨
      ¬rt.Alters op h ∧ (rt.perform op).runtime.heap.occupant? h = some x := by
  rw [alters_iff sound.generated]
  obtain ⟨e, dispatch, refused⟩ | ⟨answer, d, dispatch, relayed⟩ := rt.uses_cases uses
  · rw [refused]
    refine Or.inr ⟨?_, live⟩
    rintro ⟨d, dispatch', -⟩
    cases dispatch.symm.trans dispatch'
  · have named : d.receiver = some h :=
      (dispatch?_eq_some_iff.1 dispatch).receiver.trans uses.target
    have conduct := (d.leads rt).conduct sound.wellFormed
    rw [relayed]
    cases changes : (d.transcript rt).changes with
    | false =>
      refine Or.inr ⟨?_, conduct.untouched changes h x live⟩
      rintro ⟨d', dispatch', -, changes'⟩
      cases dispatch.symm.trans dispatch'
      cases changes.symm.trans changes'
    | true =>
      refine Or.inl ⟨⟨d, dispatch, named, changes⟩, ?_⟩
      obtain ⟨⟨o, v, n, m⟩, after, type, holders⟩ := conduct.kept h x live
      obtain ⟨r, receiver, state⟩ := conduct.mutated changes
      cases named.symm.trans receiver
      rw [Heap.state_of_live after] at state
      cases type
      cases holders
      cases m with
      | true => exact ⟨v, after⟩
      | false => cases state

/-- An instance is altered through handles that carry the identity of its type only. -/
theorem Alters.identity (alters : rt.Alters op h) (generated : rt.registry.Generated)
    (live : rt.heap.occupant? h = some x) : h.identity = C.identity x.type := by
  obtain ⟨d, dispatch, named, changes⟩ := (alters_iff generated).1 alters
  obtain ⟨c, wraps, params, receiver⟩ := (dispatch?_eq_some_iff.1 dispatch).wraps generated
  obtain ⟨o, g, values, k, body, -, named', houses⟩ := (Dispatch.changes_iff wraps params).1 changes
  cases named.symm.trans named'
  rw [named, body] at receiver
  rw [(Heap.houses_iff_of_live live).1 houses]
  exact (Option.some.inj receiver).symm

/-- What one operation does to a live instance behind a genuine handle : it stays as it is, becomes
mutated, or is reclaimed. -/
theorem perform_aftermath (sound : rt.Sound) (genuine : rt.Genuine h)
    (live : rt.heap.occupant? h = some x) (op : Operation) : rt.Aftermath op h x := by
  by_cases shared : (rt.entry op).shared? = some h.tenancy
  · exact aftermath_of_shared live shared
  by_cases released : (rt.entry op).released? = some h.tenancy
  · exact aftermath_of_released live released
  have keeps : (rt.entry op).reclaimed? ≠ some h.tenancy := mt Entry.released?_of_reclaimed released
  by_cases used : ∃ k args, op.Uses k args ∧ k.tenancy = h.tenancy
  · obtain ⟨k, args, uses, same⟩ := used
    have live' := (Heap.occupant?_congr _ same).trans live
    obtain ⟨alters, v, after⟩ | ⟨spares, after⟩ := occupant?_of_uses sound live' uses
    · -- other handles of the tenancy do not get at the instance : they carry another identity
      have identity : k.identity = h.identity :=
        (alters.identity sound.generated live').trans (genuine.identity x live).symm
      obtain rfl := Handle.eq_of_tenancy same identity
      exact .altered alters (by cases alters <;> rfl) after
    · refine .untouched (fun alters => ?_) keeps ((Heap.occupant?_congr _ same).symm.trans after)
      obtain ⟨args', uses'⟩ := alters.uses
      cases uses.target.symm.trans uses'.target
      exact spares alters
  · refine .untouched (fun alters => ?_) keeps
      (perform_others sound.wellFormed live ?_ shared released)
    · obtain ⟨args, uses⟩ := alters.uses
      exact used ⟨h, args, uses, rfl⟩
    · intro d dispatch k named same
      exact used ⟨k, d.args, (dispatch?_eq_some_iff.1 dispatch).uses named, same⟩

/-! ## States -/

theorem Alters.live (alters : rt.Alters op h) (generated : rt.registry.Generated) :
    ∃ x, rt.heap.occupant? h = some x := by
  obtain ⟨args, uses⟩ := alters.uses
  obtain ⟨d, dispatch, -⟩ := (alters_iff generated).1 alters
  obtain ⟨e, entry⟩ := (dispatch?_eq_some_iff.1 dispatch).exists_classFor uses.target
  exact (classFor_eq_ok_iff.1 entry).1

/-- What lives under a handle that an operation issues is a new instance. -/
theorem state_of_issued {k : Handle} (sound : rt.Sound) (issued : k ∈ rt.issued op) :
    (rt.perform op).runtime.state k = .constructed := by
  obtain ⟨o, v, born, -⟩ := newborn sound issued
  exact Heap.state_of_live born

/-- One operation. -/
theorem state_perform (sound : rt.Sound) (genuine : rt.Genuine h) (op : Operation) :
    let after := (rt.perform op).runtime.state h
    ((rt.entry op).reclaimed? = some h.tenancy → after = .reclaimed) ∧
      (rt.Alters op h → after = .mutated) ∧
      ((rt.entry op).reclaimed? ≠ some h.tenancy → ¬rt.Alters op h → after = rt.state h) := by
  cases before : rt.heap.occupant? h with
  | none =>
    have stale := (rt.perform_evolves op).stale sound.wellFormed genuine.issued before
    refine ⟨fun _ => Heap.state_of_stale stale, fun alters => ?_, fun _ _ => ?_⟩
    · obtain ⟨x, live⟩ := alters.live sound.generated
      cases before.symm.trans live
    · exact (Heap.state_of_stale stale).trans (Heap.state_of_stale before).symm
  | some x =>
    cases perform_aftermath sound genuine before op with
    | reclaimed spares last after =>
      exact ⟨fun _ => Heap.state_of_stale after, fun alters => absurd alters spares,
        fun keeps => absurd last keeps⟩
    | altered alters keeps after =>
      exact ⟨fun last => absurd (keeps.symm.trans last) nofun, fun _ => Heap.state_of_live after,
        fun _ spares => absurd alters spares⟩
    | counted spares keeps told after =>
      exact ⟨fun last => absurd last keeps, fun alters => absurd alters spares,
        fun _ _ => (Heap.state_of_live after).trans (Heap.state_of_live before).symm⟩
    | untouched spares keeps after =>
      exact ⟨fun last => absurd last keeps, fun alters => absurd alters spares,
        fun _ _ => (Heap.state_of_live after).trans (Heap.state_of_live before).symm⟩

/-- No operation takes an instance back to an earlier state. -/
theorem rank_state_perform (sound : rt.Sound) (genuine : rt.Genuine h) (op : Operation) :
    (rt.state h).rank ≤ ((rt.perform op).runtime.state h).rank := by
  obtain ⟨reclaims, alters, otherwise⟩ := state_perform sound genuine op
  by_cases last : (rt.entry op).reclaimed? = some h.tenancy
  · rw [reclaims last]
    exact Lifecycle.rank_le_reclaimed _
  by_cases changed : rt.Alters op h
  · rw [alters changed]
    obtain ⟨x, live⟩ := changed.live sound.generated
    rw [state, Heap.state_of_live live]
    exact x.rank_state_le
  · rw [otherwise last changed]

/-- By induction on the operations. -/
theorem rank_state_after (sound : rt.Sound) (genuine : rt.Genuine h) (ops : List Operation) :
    (rt.state h).rank ≤ ((rt.after ops).state h).rank := by
  induction ops generalizing rt with
  | nil => exact Nat.le_refl _
  | cons op ops ih =>
    exact (rank_state_perform sound genuine op).trans
      (ih (sound.perform op) (genuine.perform sound op))

/-- In a run on an empty heap, a handle is in the state constructed when it is handed out. From then
on an operation makes its state reclaimed if it is a release of its tenancy that was the last, which
for handles that were handed out is a release of this very handle; it makes the state mutated if it
alters the instance, and otherwise leaves it as it is; and however the run goes on, the state never
goes back. If different types have different identities, a call of a mutating method alters the
instance whenever the arguments convert. -/
theorem lifecycle (registry : Registry C) (generated : registry.Generated) (config : Config)
    (ops : List Operation) (h : Handle) :
    let start : Runtime C := ⟨registry, config, .empty⟩
    let rt := start.after ops
    (∀ op, (rt.entry op).handedOut? = some h → (rt.perform op).runtime.state h = .constructed) ∧
      (h ∈ (start.journal ops).handedOut →
        (∀ k ∈ (start.journal ops).handedOut, k.tenancy = h.tenancy → k = h) ∧
          (∀ op, let after := (rt.perform op).runtime.state h
            ((rt.entry op).reclaimed? = some h.tenancy → after = .reclaimed) ∧
              (rt.Alters op h → after = .mutated) ∧
              ((rt.entry op).reclaimed? ≠ some h.tenancy → ¬rt.Alters op h → after = rt.state h)) ∧
          (∀ rest, (rt.state h).rank ≤ ((rt.after rest).state h).rank) ∧
          (Function.Injective C.identity → ∀ e m name, rt.classFor h = .ok e →
            e.method name = .ok m → ∃ (o : C.Obj) (n : String) (c : Callable C), c.IsMethodOf o ∧
              m = c.toMethod o n ∧ ∀ args, rt.Alters (.callMethod h name args) h ↔
                m.receiver = .mutating ∧
                  ∃ values, Converts rt.config.policy rt.heap c.params args values)) := by
  intro start rt
  have sound : start.Sound := sound_empty generated config
  have sound' : rt.Sound := sound.after ops
  refine ⟨fun op handed => ?_, fun handed => ?_⟩
  · refine state_of_issued sound' ?_
    rw [issued_eq_handedOut sound'.generated, handed]
    exact List.mem_singleton_self h
  · have genuine : rt.Genuine h := genuine_of_handedOut sound handed
    have nodup : ((start.journal ops).handedOut.map Handle.tenancy).Nodup := by
      rw [← issuedIn_eq_handedOut generated]
      exact (start.after_evolves ops).nodup Heap.wellFormed_empty
    exact ⟨fun k other => List.inj_on_of_nodup_map nodup other handed, state_perform sound' genuine,
      rank_state_after sound' genuine, fun distinct e m name entry method =>
        alters_callMethod_iff sound'.generated distinct genuine entry method⟩

open Gallery in
/-- A counter is read, or called with a negative number, which it counts and reports, or
released. -/
theorem lifecycle_counter :
    let h : Handle := ⟨0, 1, catalog.identity .counter⟩
    let back : Operation := .callMethod h "advance" [.int (.wrap .i64 (-3))]
    let rt := Mint.start.after Mint.reuse
    Mint.registry.Generated ∧ h ∈ (Mint.start.journal Mint.reuse).handedOut ∧
      rt.state h = .constructed ∧
      (rt.perform (.getField h "count")).runtime.state h = .constructed ∧
      (∀ r, (rt.perform back).outcome ≠ .ok r) ∧ (rt.perform back).runtime.state h = .mutated ∧
      (rt.perform (.release h)).runtime.state h = .reclaimed := by
  intro h back rt
  have handed : h ∈ (Mint.start.journal Mint.reuse).handedOut := Mint.handedOut_counter
  have live : rt.heap.occupant? h = _ := Mint.occupant?_counter
  have found : rt.classFor h = .ok Mint.counters := Mint.classFor_counter
  have method : Mint.counters.method "advance" =
    .ok (Mint.advance.toMethod .counter "advance") := rfl
  have alters : rt.Alters back h :=
    .method found method rfl rfl (.cons rfl .nil) ⟨_, live, rfl⟩
  have state : rt.state h = .constructed := Heap.state_of_live live
  have last : (rt.entry (.release h)).reclaimed? = some h.tenancy := by
    rw [Runtime.entry, outcome_release live]
    rfl
  obtain ⟨-, step, -⟩ := (lifecycle Mint.registry Mint.generated {} Mint.reuse h).2 handed
  refine ⟨Mint.generated, handed, state, ?_, ?_, (step back).2.1 alters, (step _).1 last⟩
  · have spares : ¬rt.Alters (.getField h "count") h := by rintro ⟨⟩
    exact ((step _).2.2 (by rintro ⟨⟩) spares).trans state
  · simp only [perform, callMethod, back, found, method]
    rw [show rt = _ from Mint.after_reuse]
    rintro r ⟨⟩

end Runtime

/-! ## Aliases and namesakes -/

namespace Gallery

/-- Two types of the same name, whose instances are numbers. -/
@[reducible] def namesakes : Catalog where
  Obj := Bool
  Instance _ := Fixed .i64
  name _ := "Number"
  sharing _ := .exclusive
  clone _ v := .ok v

namespace Namesakes

/-- Makes an instance of the one type. -/
def make : Callable namesakes := ⟨[⟨"n", .int .i64⟩], .object false, .free fun (n, ()) => .ok n⟩

/-- Touches an instance of the other. -/
def touch : Callable namesakes := ⟨[], .unit, .changing true fun n () => (n, .ok ())⟩

/-- The class of the one type, with the methods of the other. -/
def numbers : ClassEntry namesakes where
  toMembers := Members.empty.pushMethod (touch.toMethod true "touch") rfl
  name := "Number"
  identity := namesakes.identity false
  sharing := .exclusive
  copy := none
  hasTable := true

def registry : Registry namesakes :=
  ((Registry.empty "namesakes").pushFunction (make.toFunction "make") rfl).pushClass numbers rfl rfl

theorem generated : registry.Generated where
  functions := List.forall_mem_singleton.2 ⟨"make", make, trivial, rfl⟩
  classes := List.forall_mem_singleton.2
    { declared := ⟨false, false, [], rfl⟩
      table := ⟨true, rfl, List.forall_mem_singleton.2 ⟨"touch", touch, rfl, rfl⟩, nofun⟩ }

/-- Nothing made yet. -/
def start : Runtime namesakes := ⟨registry, {}, .empty⟩

/-- An instance of the one type is made. -/
def making : List Operation := [.call "make" [.int (.wrap .i64 7)]]

end Namesakes

end Gallery

namespace Runtime

open Gallery in
/-- The handle of the counter is not the only one that takes it away : a handle of its tenancy that
is forged to say that it is a token does so, too. And if two types have the same name, a mutating
method of the one does not touch an instance of the other. -/
theorem lifecycle_alias_namesake :
    let h : Handle := ⟨0, 1, catalog.identity .counter⟩
    let forged : Handle := ⟨0, 1, catalog.identity .token⟩
    let rt := Mint.start.after Mint.reuse
    let g : Handle := ⟨0, 0, namesakes.identity false⟩
    let touch : MethodMeta namesakes := Namesakes.touch.toMethod true "touch"
    let rt' := Namesakes.start.after Namesakes.making
    (Mint.registry.Generated ∧ h ∈ (Mint.start.journal Mint.reuse).handedOut ∧
        rt.state h = .constructed ∧ forged ≠ h ∧
        (rt.perform (.release forged)).outcome = .ok (.reclaimed true) ∧
        (rt.perform (.release forged)).runtime.state h = .reclaimed) ∧
      Namesakes.registry.Generated ∧
        g ∈ (Namesakes.start.journal Namesakes.making).handedOut ∧ rt'.state g = .constructed ∧
        rt'.classFor g = .ok Namesakes.numbers ∧ Namesakes.numbers.method "touch" = .ok touch ∧
        touch.receiver = .mutating ∧
        Converts rt'.config.policy rt'.heap Namesakes.touch.params [] () ∧
        (rt'.perform (.callMethod g "touch" [])).runtime.state g = .constructed := by
  intro h forged rt g touch rt'
  refine ⟨?_, ?_⟩
  · have live : rt.heap.occupant? h = _ := Mint.occupant?_counter
    have other : forged ≠ h := by
      intro same
      cases identity_injective (congrArg Handle.identity same)
    -- by way of the pair, or else the two identities are compared
    have same : forged.tenancy = h.tenancy := calc
      forged.tenancy = (0, 1) := rfl
      _ = h.tenancy := rfl
    have last : (rt.perform (.release forged)).outcome = .ok (.reclaimed true) := by
      rw [outcome_release ((Heap.occupant?_congr _ same).trans live)]
      rfl
    have sound : rt.Sound := (sound_empty Mint.generated {}).after Mint.reuse
    have genuine : rt.Genuine h :=
      genuine_of_handedOut (sound_empty Mint.generated {}) Mint.handedOut_counter
    have reclaims : (rt.entry (.release forged)).reclaimed? = some h.tenancy := by
      rw [Runtime.entry, last]
      exact congrArg some same
    exact ⟨Mint.generated, Mint.handedOut_counter, Heap.state_of_live live, other, last,
      (state_perform sound genuine _).1 reclaims⟩
  · have live : rt'.heap.occupant? g = some ⟨false, .wrap .i64 7, 1, false⟩ := rfl
    have found : rt'.classFor g = .ok Namesakes.numbers := classFor_of_live
      (Registry.classOf?_eq_some_iff.2 ⟨List.mem_singleton_self Namesakes.numbers, rfl⟩) live
    refine ⟨Namesakes.generated, List.mem_cons_self .., Heap.state_of_live live, found, rfl, rfl,
      .nil, ?_⟩
    simp only [perform, callMethod, found]
    rfl

end Runtime

end NativeBridge
