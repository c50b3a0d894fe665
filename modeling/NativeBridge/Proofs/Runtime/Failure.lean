import NativeBridge.Gallery.Exhibit
import NativeBridge.Proofs.Runtime.Moves
import NativeBridge.Proofs.Wrapper.Receivers

/-!
# Operations that fail

In a runtime with generated bindings an operation that fails has done nothing : a wrapper that
fails has issued no handle, and unless it wraps a mutating method it has not got its receiver for
changing either (`Runtime.Dispatches.tidy`, `Runtime.Dispatches.steady`). What is left is a call of
a mutating method that gets as far as its body, `Runtime.ReachesBody`; that is when the arguments
are right and the receiver is of the right type (`Runtime.reachesBody_iff`).

`Runtime.perform_failed` : in any heap, an operation that fails leaves the heap as it is, except for
such a call, which may leave another value in its receiver and marks it as mutated.
-/

namespace NativeBridge

variable {C : Catalog}

/-- The call of a wrapper goes by the rules of its callable. -/
theorem Dispatch.behaves {rt : Runtime C} {d : Dispatch C} {c : Callable C}
    (wraps : c.Wraps d.native.code) (params : d.site.params = c.paramMetas) :
    c.Behaves rt.invoker d.site d.receiver d.args rt.heap (d.effect rt) :=
  (rt.invoker.invoke_eq_iff wraps d.native.identity params d.receiver d.args rt.heap _).1 rfl

/-- A call gets its receiver for changing if its callable is `changing`, there are as many arguments
as parameters, all of them convert, and the receiver is an instance of the type, and not otherwise.
-/
theorem Dispatch.changes_iff {rt : Runtime C} {d : Dispatch C} {c : Callable C}
    (wraps : c.Wraps d.native.code) (params : d.site.params = c.paramMetas) :
    (d.transcript rt).changes = true ↔
      ∃ o g values k, c.body = .changing o g ∧
        Converts rt.config.policy rt.heap c.params d.args values ∧ d.receiver = some k ∧
          rt.heap.Houses k o := by
  have length : d.site.params.length = c.params.length := by
    rw [params, Callable.paramMetas, List.length_map]
  unfold transcript Invoker.transcript
  split
  next arity =>
    rw [wraps.changes_iff]
    refine ⟨?_, ?_⟩
    · rintro ⟨o, g, values, k, v, body, converted, named, found⟩
      exact ⟨o, g, values, k, body, Frame.converts_of_arguments (arity.trans length) converted, named,
        Heap.houses_iff.2 ⟨v, found⟩⟩
    · rintro ⟨o, g, values, k, body, converts, named, houses⟩
      obtain ⟨v, found⟩ := Heap.houses_iff.1 houses
      exact ⟨o, g, values, k, v, body, Frame.arguments_of_converts converts rfl, named, found⟩
  next arity =>
    refine ⟨fun changes => ?_, ?_⟩
    · cases changes
    · rintro ⟨o, g, values, k, -, converts, -⟩
      exact absurd (converts.length_eq.trans length.symm) arity

namespace Runtime

variable {rt : Runtime C} {op : Operation} {d : Dispatch C}

/-- A class is found for a live handle of its identity. -/
theorem classFor_eq_ok_iff {h : Handle} {e : ClassEntry C} :
    rt.classFor h = .ok e ↔
      (∃ x, rt.heap.occupant? h = some x) ∧ e ∈ rt.registry.classes ∧ e.identity = h.identity := by
  rw [← Registry.classOf?_eq_some_iff, classFor]
  cases rt.heap.occupant? h with
  | none => simp
  | some x => cases rt.registry.classOf? h.identity <;> simp

theorem mem_of_classFor {h : Handle} {e : ClassEntry C} (found : rt.classFor h = .ok e) :
    e ∈ rt.registry.classes :=
  (classFor_eq_ok_iff.1 found).2.1

theorem identity_of_classFor {h : Handle} {e : ClassEntry C} (found : rt.classFor h = .ok e) :
    e.identity = h.identity :=
  (classFor_eq_ok_iff.1 found).2.2

/-- The receiver of a call is the handle that the operation is about. -/
theorem Dispatches.receiver (dispatches : rt.Dispatches op d) : d.receiver = op.target? := by
  cases dispatches <;> rfl

/-- The call of a generated binding runs the wrapper of a callable whose parameters are declared. If
it has a receiver, the callable is for a type of the identity that the receiver carries, and if not,
it takes none. -/
theorem Dispatches.wraps (dispatches : rt.Dispatches op d) (generated : rt.registry.Generated) :
    ∃ c : Callable C, c.Wraps d.native.code ∧ d.site.params = c.paramMetas ∧
      c.body.receiver?.map C.identity = d.receiver.map Handle.identity := by
  cases dispatches with
  | call function =>
    obtain ⟨name, c, free, rfl⟩ := generated.functions _ (Registry.mem_of_function function)
    exact ⟨c, .callable c, rfl, by rw [free.receiver?]; rfl⟩
  | construct entry present | constructWith entry present =>
    have origin := generated.classes _ (Registry.mem_of_classNamed entry)
    obtain ⟨o, c, -, constructs, rfl⟩ := origin.constructor present
    exact ⟨c, .callable c, rfl, by rw [constructs.1.receiver?]; rfl⟩
  | getField entry field =>
    have origin := generated.classes _ (mem_of_classFor entry)
    obtain ⟨o, p, same, rfl⟩ := origin.field (ClassEntry.mem_of_field field)
    have identity := same.trans (identity_of_classFor entry)
    exact ⟨p.reader, .getter p, rfl, congrArg some identity⟩
  | setField entry field writable =>
    have origin := generated.classes _ (mem_of_classFor entry)
    obtain ⟨o, p, same, rfl⟩ := origin.field (ClassEntry.mem_of_field field)
    obtain ⟨set, code⟩ := Property.setter_of_toField writable
    have identity := same.trans (identity_of_classFor entry)
    exact ⟨p.writer set, code ▸ .setter p set, rfl, congrArg some identity⟩
  | callMethod entry method =>
    have origin := generated.classes _ (mem_of_classFor entry)
    obtain ⟨o, name, c, same, own, rfl⟩ := origin.method (ClassEntry.mem_of_method method)
    have identity := same.trans (identity_of_classFor entry)
    exact ⟨c, .callable c, rfl, by rw [own.receiver?]; exact congrArg some identity⟩

/-- The code behind an operation is the wrapper of a callable, a getter or, to set a field, a
setter. -/
theorem Dispatches.code_cases (dispatches : rt.Dispatches op d)
    (generated : rt.registry.Generated) :
    (∃ c : Callable C, d.native.code = c.code) ∨
      (∃ (o : C.Obj) (p : Property C o), d.native.code = p.getter) ∨
      ∃ (o : C.Obj) (p : Property C o) (set : p.type.Value → C.Instance o → C.Instance o),
        d.native.code = p.setter set ∧ ∃ h name v, op = .setField h name v := by
  cases dispatches with
  | call function =>
    obtain ⟨name, c, -, rfl⟩ := generated.functions _ (Registry.mem_of_function function)
    exact Or.inl ⟨c, rfl⟩
  | construct entry present | constructWith entry present =>
    have origin := generated.classes _ (Registry.mem_of_classNamed entry)
    obtain ⟨o, c, -, -, rfl⟩ := origin.constructor present
    exact Or.inl ⟨c, rfl⟩
  | getField entry field =>
    have origin := generated.classes _ (mem_of_classFor entry)
    obtain ⟨o, p, -, rfl⟩ := origin.field (ClassEntry.mem_of_field field)
    exact Or.inr (Or.inl ⟨o, p, rfl⟩)
  | @setField h name v e f setter entry field writable =>
    have origin := generated.classes _ (mem_of_classFor entry)
    obtain ⟨o, p, -, rfl⟩ := origin.field (ClassEntry.mem_of_field field)
    obtain ⟨set, code⟩ := Property.setter_of_toField writable
    exact Or.inr (Or.inr ⟨o, p, set, code, h, name, v, rfl⟩)
  | callMethod entry method =>
    have origin := generated.classes _ (mem_of_classFor entry)
    obtain ⟨o, name, c, -, -, rfl⟩ := origin.method (ClassEntry.mem_of_method method)
    exact Or.inl ⟨c, rfl⟩

/-- Generated code that fails has issued nothing. -/
theorem Dispatches.tidy (dispatches : rt.Dispatches op d) (generated : rt.registry.Generated) :
    d.native.code.Tidy := by
  obtain ⟨c, code⟩ | ⟨o, p, code⟩ | ⟨o, p, set, code, -⟩ := dispatches.code_cases generated
  · rw [code]
    exact c.tidy_code
  · rw [code]
    exact p.tidy_getter
  · rw [code]
    exact (p.tidy_setter set).onFailure

/-- The operation calls a mutating method. -/
def Mutates (rt : Runtime C) (op : Operation) : Prop :=
  ∃ h name args e m, op = .callMethod h name args ∧ rt.classFor h = .ok e ∧
    e.method name = .ok m ∧ m.receiver = .mutating

/-- Generated code that fails has changed nothing, unless it is a method that changes its
receiver. -/
theorem Dispatches.steady (dispatches : rt.Dispatches op d) (generated : rt.registry.Generated)
    (spares : ¬rt.Mutates op) : d.native.code.Steady := by
  cases dispatches with
  | call function =>
    obtain ⟨name, c, free, rfl⟩ := generated.functions _ (Registry.mem_of_function function)
    exact (c.steady_code free.ne_changing).onFailure
  | construct entry present | constructWith entry present =>
    have origin := generated.classes _ (Registry.mem_of_classNamed entry)
    obtain ⟨o, c, -, constructs, rfl⟩ := origin.constructor present
    exact (c.steady_code constructs.1.ne_changing).onFailure
  | getField entry field =>
    have origin := generated.classes _ (mem_of_classFor entry)
    obtain ⟨o, p, -, rfl⟩ := origin.field (ClassEntry.mem_of_field field)
    exact p.steady_getter.onFailure
  | setField entry field writable =>
    have origin := generated.classes _ (mem_of_classFor entry)
    obtain ⟨o, p, -, rfl⟩ := origin.field (ClassEntry.mem_of_field field)
    obtain ⟨set, code⟩ := Property.setter_of_toField writable
    rw [code]
    exact p.steady_setter set
  | @callMethod h name args e m entry method =>
    have origin := generated.classes _ (mem_of_classFor entry)
    obtain ⟨o, n, c, -, -, made⟩ := origin.method (ClassEntry.mem_of_method method)
    have other : ∀ r g, c.body ≠ .changing r g := by
      intro r g hb
      refine spares ⟨h, name, args, e, m, rfl, entry, method, ?_⟩
      rw [made]
      exact Callable.mode_eq_mutating_iff.2 ⟨r, g, hb⟩
    rw [made]
    exact (c.steady_code other).onFailure

/-- The operation calls a mutating method, and gets as far as its body : the wrapper has got the
receiver for changing. -/
def ReachesBody (rt : Runtime C) (op : Operation) : Prop :=
  rt.Mutates op ∧ ∃ d, rt.dispatch? op = some d ∧ (d.transcript rt).changes = true

/-- The body of a mutating method is reached if the number of arguments is right, all of them
convert, and the receiver is an instance of the type that the method is for. -/
theorem reachesBody_iff (generated : rt.registry.Generated) :
    rt.ReachesBody op ↔
      ∃ h name args e o n c r g values v, op = .callMethod h name args ∧ rt.classFor h = .ok e ∧
        e.method name = .ok (Callable.toMethod o n c) ∧ args.length = c.params.length ∧
        c.body = .changing r g ∧
        Frame.arguments ⟨args, some h, rt.config.policy⟩ rt.heap c.params 0 = .ok values ∧
        rt.heap.get r h = .ok v := by
  refine ⟨?_, ?_⟩
  · rintro ⟨⟨h, name, args, e, m, rfl, entry, method, -⟩, d, dispatch, changes⟩
    obtain ⟨o, n, c, -, -, rfl⟩ := (generated.classes _ (mem_of_classFor entry)).method
      (ClassEntry.mem_of_method method)
    rw [dispatch?_eq_some_iff.2 (.callMethod entry method)] at dispatch
    cases dispatch
    obtain ⟨r, g, values, k, body, converts, named, houses⟩ :=
      (Dispatch.changes_iff (.callable c) rfl).1 changes
    cases named
    obtain ⟨v, found⟩ := Heap.houses_iff.1 houses
    exact ⟨h, name, args, e, o, n, c, r, g, values, v, rfl, entry, method, converts.length_eq, body,
      Frame.arguments_of_converts converts rfl, found⟩
  · rintro ⟨h, name, args, e, o, n, c, r, g, values, v, rfl, entry, method, arity, body, converted,
      found⟩
    refine ⟨⟨h, name, args, e, _, rfl, entry, method, ?_⟩, _,
      dispatch?_eq_some_iff.2 (.callMethod entry method), ?_⟩
    · exact Callable.mode_eq_mutating_iff.2 ⟨r, g, body⟩
    · exact (Dispatch.changes_iff (.callable c) rfl).2 ⟨r, g, values, h, body,
        Frame.converts_of_arguments arity converted, rfl, Heap.houses_iff.2 ⟨v, found⟩⟩

/-- A generated constructor returns instances of its class. -/
theorem returns_own {e : ClassEntry C} {k : ConstructorMeta C} {args : List HostValue}
    {v : HostValue} (generated : e.Generated) (present : e.constructor = some k)
    (returned : ((e.construction k args).effect rt).outcome = .ok v) :
    ∃ h, v = .object h ∧ h.identity = e.identity := by
  obtain ⟨o, c, same, constructs, rfl⟩ := generated.constructor present
  obtain ⟨-, ok, rfl⟩ := (Invoker.invoke_eq_ok_iff ..).1 returned
  obtain ⟨h, result, identity⟩ := constructs.result (Prod.ext ok rfl)
  exact ⟨h, result, identity.trans same⟩

/-- An operation that fails leaves the heap as it is, unless it is a call of a mutating method that
gets as far as its body. In that case the receiver counts as mutated, its value may be another, and
nothing else changes. -/
theorem perform_failed (rt : Runtime C) (generated : rt.registry.Generated) (op : Operation)
    (failed : ∀ r, (rt.perform op).outcome ≠ .ok r) :
    (¬rt.ReachesBody op → (rt.perform op).runtime.heap = rt.heap) ∧
      (rt.ReachesBody op → ∃ h x v, op.target? = some h ∧ rt.heap.occupant? h = some x ∧
        (rt.perform op).runtime.heap =
          rt.heap.put h { x with value := v, mutated := true }) := by
  cases rt.perform_moves op with
  | still heap dispatch =>
    refine ⟨fun _ => heap, ?_⟩
    rintro ⟨-, d, dispatch', -⟩
    cases dispatch.symm.trans dispatch'
  | @called d dispatch heap answered =>
    have dispatches := dispatch?_eq_some_iff.1 dispatch
    have refused : ∀ v, (d.effect rt).outcome ≠ .ok v := by
      intro v ok
      obtain ⟨r, answer⟩ := answered v ok
      exact failed r answer
    have leads := rt.invoker.invoke_leads d.native d.site d.receiver d.args rt.heap
    have issued := Invoker.mem_transcript_of_failure (dispatches.tidy generated) refused
    cases changes : (d.transcript rt).changes with
    | false =>
      refine ⟨fun _ => heap.trans (leads.eq_of_still issued changes), ?_⟩
      rintro ⟨-, d', dispatch', changes'⟩
      cases dispatch.symm.trans dispatch'
      cases changes.symm.trans changes'
    | true =>
      have reached : rt.ReachesBody op := by
        refine ⟨Classical.byContradiction fun spares => ?_, d, dispatch, changes⟩
        have still := Invoker.mem_transcript_of_failure (dispatches.steady generated spares) refused
        cases changes.symm.trans (Transcript.changes_eq_false_iff.2 still)
      refine ⟨fun missed => absurd reached missed, fun _ => ?_⟩
      obtain ⟨h, x, v, named, live, put⟩ := leads.put_of_changes issued changes
      exact ⟨h, x, v, dispatches.receiver.symm.trans named, live, heap.trans put⟩
  | misconstructed member present _ returned foreign =>
    obtain ⟨h, rfl, same⟩ := returns_own (generated.classes _ member) present returned
    exact absurd same (foreign h rfl)
  | released _ _ answered => exact absurd answered (failed _)
  | shared _ _ answered => exact absurd answered (failed _)
  | copied _ _ _ answered => exact absurd answered (failed _)

open Gallery in
/-- A method drops the note of a tag and then fails : its body is reached, and the tag is
changed. -/
theorem perform_failed_spoil :
    let spoil : Callable catalog :=
      ⟨[], .unit, .changing .tag fun t _ => ({ t with note := none }, .error "spoilt")⟩
    let entry : ClassEntry catalog :=
      ⟨Members.empty.pushMethod (spoil.toMethod .tag "spoil") rfl, "Tag", catalog.identity .tag,
        .shared, none, none, true⟩
    let tag : Occupant catalog :=
      ⟨.tag, ⟨.wrap .u8 1, .ofBits 0, some "fresh", false, .wrap .i64 0⟩, 1, false⟩
    let rt : Runtime catalog :=
      ⟨(Registry.empty "tags").pushClass entry rfl rfl, {}, ⟨#[⟨0, some tag⟩], [], 1⟩⟩
    let h : Handle := ⟨0, 0, catalog.identity .tag⟩
    let op : Operation := .callMethod h "spoil" []
    rt.registry.Generated ∧ (∀ r, (rt.perform op).outcome ≠ .ok r) ∧ rt.ReachesBody op ∧
      ∃ k x v, op.target? = some k ∧ rt.heap.occupant? k = some x ∧
        (rt.perform op).runtime.heap = rt.heap.put k { x with value := v, mutated := true } := by
  intro spoil entry tag rt h op
  have generated : rt.registry.Generated := by
    have methods : ∀ m ∈ entry.methods, m.Generated Exhibit.tag :=
      List.forall_mem_singleton.2 ⟨"spoil", spoil, rfl, rfl⟩
    exact ⟨nofun, List.forall_mem_singleton.2
      ⟨⟨Exhibit.tag, false, [], rfl⟩, Exhibit.tag, rfl, methods, nofun⟩⟩
  have found : rt.classFor h = .ok entry := by
    have live : rt.heap.occupant? h = some tag := rfl
    have owner : rt.registry.classOf? h.identity = some entry :=
      Registry.classOf?_eq_some_iff.2 ⟨List.mem_singleton_self entry, rfl⟩
    rw [classFor, live, owner]
  have method : entry.method "spoil" = .ok (spoil.toMethod Exhibit.tag "spoil") := rfl
  have failed : ∀ r, (rt.perform op).outcome ≠ .ok r := by
    simp only [perform, callMethod, op, found, method]
    rintro r ⟨⟩
  have reached : rt.ReachesBody op :=
    ⟨⟨h, "spoil", [], entry, _, rfl, found, method, rfl⟩, _,
      dispatch?_eq_some_iff.2 (.callMethod found method), rfl⟩
  exact ⟨generated, failed, reached, (perform_failed rt generated op failed).2 reached⟩

end Runtime

end NativeBridge
