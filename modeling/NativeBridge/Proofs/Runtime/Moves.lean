import NativeBridge.Proofs.Runtime.Dispatch

/-!
# What operations do to the heap

`Runtime.Moves` lists what an operation can do to the heap : nothing; what its call does; what the
call of a constructor does that returns something else than an instance of its class, which is
released again; or a release, a holder more, or a copy. `Runtime.perform_moves` finds one of these
in every operation. One that comes to a call succeeds only if that does (`Dispatches.exists_ok`).

`Runtime.after` is the runtime after a run of operations. The handles that a run issues
(`Runtime.issuedIn`) are those that native code sets as a return value and those of copies, and they
are all the handles that the heap hands out (`Runtime.after_evolves`).
-/

namespace NativeBridge

variable {C : Catalog}

namespace CopyRule

/-- A copy is an allocation, or it fails and does nothing. -/
theorem apply_cases (rule : CopyRule C) (heap : Heap C) (h : Handle) :
    ((rule.apply heap h).2 = heap ∧ (rule.apply heap h).1.value? = none) ∨
      ∃ v k, heap.allocate rule.type v = .ok (k, (rule.apply heap h).2) ∧
        (rule.apply heap h).1 = .ok k := by
  unfold apply
  cases heap.get rule.type h with
  | error e => exact Or.inl ⟨rfl, rfl⟩
  | ok value =>
    dsimp only
    cases rule.duplicate value with
    | error e => exact Or.inl ⟨rfl, rfl⟩
    | panic p => exact Or.inl ⟨rfl, rfl⟩
    | ok copy =>
      dsimp only
      cases ha : heap.allocate rule.type copy with
      | error e => exact Or.inl ⟨rfl, rfl⟩
      | ok p => exact Or.inr ⟨copy, p.1, ha, rfl⟩

/-- What is copied has been found, and has been duplicated. -/
theorem allocate_of_apply {rule : CopyRule C} {heap : Heap C} {h k : Handle}
    (ok : (rule.apply heap h).1 = .ok k) :
    ∃ v w, heap.get rule.type h = .ok v ∧ rule.duplicate v = .ok w ∧
      heap.allocate rule.type w = .ok (k, (rule.apply heap h).2) := by
  unfold apply at ok ⊢
  cases found : heap.get rule.type h with
  | error e => simp [found] at ok
  | ok v =>
    cases copied : rule.duplicate v with
    | error e => simp [found, copied] at ok
    | panic p => simp [found, copied] at ok
    | ok w =>
      cases allocated : heap.allocate rule.type w with
      | error e => simp [found, copied, allocated] at ok
      | ok p =>
        simp only [found, copied, allocated] at ok ⊢
        cases ok
        exact ⟨v, w, rfl, copied, allocated⟩

/-- What a generated copy function duplicates is the clone. -/
theorem duplicate_ofClone_eq_ok {o : C.Obj} {v w : C.Instance o}
    (copied : (ofClone o).duplicate v = .ok w) : C.clone o v = .ok w := by
  simp only [ofClone] at copied
  cases cloned : C.clone o v with
  | ok copy =>
    rw [cloned] at copied
    cases copied
    rfl
  | error p =>
    rw [cloned] at copied
    cases copied

end CopyRule

namespace Runtime

/-- The handle of a copy, if the operation makes one. -/
def copied (rt : Runtime C) : Operation → List Handle
  | .copy h => (rt.copy h).outcome.value?.toList
  | _ => []

/-- The handles that an operation issues : those that native code sets as a return value, and that
of a copy. -/
def issued (rt : Runtime C) (op : Operation) : List Handle :=
  match rt.dispatch? op with
  | some d => (d.transcript rt).issued
  | none => rt.copied op

/-- The handles of an operation are those that its native code has issued. -/
theorem issued_of_dispatch {rt : Runtime C} {op : Operation} {d : Dispatch C}
    (dispatch : rt.dispatch? op = some d) : rt.issued op = (d.transcript rt).issued := by
  rw [issued, dispatch]

/-- What an operation does to the heap, with the answer as far as it goes with that. -/
inductive Moves (rt : Runtime C) (op : Operation) : Prop
  | still (heap : (rt.perform op).runtime.heap = rt.heap) (dispatch : rt.dispatch? op = none)
      (issued : rt.issued op = [])
  | called {d : Dispatch C} (dispatch : rt.dispatch? op = some d)
      (heap : (rt.perform op).runtime.heap = (d.effect rt).heap)
      (answered : ∀ v, (d.effect rt).outcome = .ok v → ∃ r, (rt.perform op).outcome = .ok r)
  | misconstructed {e : ClassEntry C} {c : ConstructorMeta C} {args : List HostValue}
      {v : HostValue} (member : e ∈ rt.registry.classes) (present : e.constructor = some c)
      (dispatch : rt.dispatch? op = some (e.construction c args))
      (returned : ((e.construction c args).effect rt).outcome = .ok v)
      (foreign : ∀ h, v = .object h → h.identity ≠ e.identity)
      (heap : (rt.perform op).runtime.heap = ((e.construction c args).effect rt).heap ∨
        ∃ h last, v = .object h ∧ ((e.construction c args).effect rt).heap.release h =
          .ok (last, (rt.perform op).runtime.heap))
  | released {h : Handle} {last : Bool} (operation : op = .release h)
      (release : rt.heap.release h = .ok (last, (rt.perform op).runtime.heap))
      (answered : (rt.perform op).outcome = .ok (.reclaimed last))
  | shared {h : Handle} {n : Nat} (operation : op = .share h)
      (share : rt.heap.share h = .ok (n, (rt.perform op).runtime.heap))
      (answered : (rt.perform op).outcome = .ok (.handle h))
  | copied {h k : Handle} {o : C.Obj} {v : C.Instance o} (operation : op = .copy h)
      (allocate : rt.heap.allocate o v = .ok (k, (rt.perform op).runtime.heap))
      (issued : rt.issued op = [k]) (answered : (rt.perform op).outcome = .ok (.handle k))

variable {rt : Runtime C} {op : Operation}

/-- What is refused moves nothing. -/
theorem Refused.moves (refused : rt.Refused op) (other : ¬∃ h, op = .copy h) : rt.Moves op := by
  obtain ⟨e, dispatch, perform⟩ := refused
  refine .still (by rw [perform]; rfl) dispatch ?_
  rw [issued, dispatch]
  cases op with
  | copy h => exact absurd ⟨h, rfl⟩ other
  | _ => rfl

theorem finish_outcome_of_ok {α : Type} {r : Invoker.Effect C α} {a : α} (answer : α → Response)
    (ok : r.outcome = .ok a) : (rt.finish r answer).outcome = .ok (answer a) := by
  rw [finish, ok]
  rfl

/-- What is passed on to native code moves the heap as that does. -/
theorem Relayed.moves {answer : HostValue → Response} (relayed : rt.Relayed op answer) :
    rt.Moves op := by
  obtain ⟨d, dispatch, perform⟩ := relayed
  refine .called dispatch (by rw [perform]; rfl) fun v ok => ⟨answer v, ?_⟩
  rw [perform]
  exact finish_outcome_of_ok answer ok

/-- A construction moves the heap as its constructor does, and may release what came of it. -/
theorem Constructed.moves (constructed : rt.Constructed op) : rt.Moves op := by
  obtain ⟨e, c, args, member, present, dispatch, perform⟩ := constructed
  cases ho : ((e.construction c args).effect rt).outcome with
  | panic p =>
    refine .called dispatch ?_ fun v ok => ?_
    · rw [perform, checkConstructed, ho]
      rfl
    · cases ho.symm.trans ok
  | error cause =>
    refine .called dispatch ?_ fun v ok => ?_
    · rw [perform, checkConstructed, ho]
      rfl
    · cases ho.symm.trans ok
  | ok v =>
    by_cases own : ∃ h, v = .object h ∧ h.identity = e.identity
    · obtain ⟨h, rfl, same⟩ := own
      refine .called dispatch ?_ fun _ _ => ⟨.handle h, ?_⟩
      · rw [perform, checkConstructed, ho]
        simp [same, finish]
      · rw [perform, checkConstructed, ho]
        simp [same, finish, Outcome.bind, Outcome.mapError]
    · have foreign : ∀ h, v = .object h → h.identity ≠ e.identity :=
        fun h hv same => own ⟨h, hv, same⟩
      refine .misconstructed member present dispatch ho foreign ?_
      rw [perform, checkConstructed, ho]
      cases v with
      | object h =>
        simp only [foreign h rfl, if_false]
        cases hr : ((e.construction c args).effect rt).heap.release h with
        | error cause => exact Or.inl rfl
        | ok p => exact Or.inr ⟨h, p.1, rfl, hr⟩
      | none | bool _ | int _ | float _ | str _ => exact Or.inl rfl

theorem release_moves (rt : Runtime C) (h : Handle) : rt.Moves (.release h) := by
  cases hr : rt.heap.release h with
  | error e => exact .still (by simp [perform, release, hr, finish, refuse]) rfl rfl
  | ok p =>
    have performed : rt.perform (.release h) =
        rt.finish (⟨.ok p.1, p.2, []⟩ : Invoker.Effect C Bool) .reclaimed := by
      rw [perform, release, hr]
    have answered : (rt.perform (.release h)).outcome = .ok (.reclaimed p.1) := by
      rw [performed]
      rfl
    refine .released rfl ?_ answered
    rw [performed]
    exact hr

theorem share_moves (rt : Runtime C) (h : Handle) : rt.Moves (.share h) := by
  cases hs : rt.heap.share h with
  | error e => exact .still (by simp [perform, share, hs, finish, refuse]) rfl rfl
  | ok p =>
    have performed : rt.perform (.share h) =
        rt.finish (⟨.ok h, p.2, []⟩ : Invoker.Effect C Handle) .handle := by
      rw [perform, share, hs]
    refine .shared rfl (n := p.1) ?_ ?_
    · rw [performed]
      exact hs
    · rw [performed]
      rfl

theorem copy_moves (rt : Runtime C) (h : Handle) : rt.Moves (.copy h) := by
  cases he : rt.classFor h with
  | error cause =>
    exact .still (by simp [perform, copy, he, finish, refuse]) rfl
      (by simp [issued, dispatch?, copied, copy, he, refuse, Outcome.value?])
  | ok e =>
    cases hc : e.copy with
    | none =>
      exact .still (by simp [perform, copy, he, hc, finish, refuse]) rfl
        (by simp [issued, dispatch?, copied, copy, he, hc, refuse, Outcome.value?])
    | some rule =>
      have effect : rt.copy h = ⟨(rule.apply rt.heap h).1.mapError (.ofConversion e.name e.name),
          (rule.apply rt.heap h).2, []⟩ := by
        rw [copy, he]
        simp [hc]
      have answered : rt.issued (.copy h) = (rule.apply rt.heap h).1.value?.toList := by
        simp only [issued, dispatch?, copied, effect]
        cases (rule.apply rt.heap h).1 <;> rfl
      obtain ⟨same, failed⟩ | ⟨v, k, ha, ok⟩ := rule.apply_cases rt.heap h
      · refine .still ?_ rfl ?_
        · rw [perform, effect]
          exact same
        · rw [answered, failed]
          rfl
      · refine .copied rfl (k := k) (v := v) ?_ ?_ ?_
        · rw [perform, effect]
          exact ha
        · rw [answered, ok]
          rfl
        · rw [perform, effect, ok]
          rfl

/-- Every operation moves the heap in one of these ways. -/
theorem perform_moves (rt : Runtime C) (op : Operation) : rt.Moves op := by
  cases op with
  | call name args => exact (rt.call_cases name args).elim (Refused.moves · nofun) Relayed.moves
  | construct typeName args =>
    exact (rt.construct_cases typeName args).elim (Refused.moves · nofun) Constructed.moves
  | constructWith typeName args keywords =>
    exact (rt.constructWith_cases typeName args keywords).elim (Refused.moves · nofun)
      Constructed.moves
  | getField h name => exact (rt.getField_cases h name).elim (Refused.moves · nofun) Relayed.moves
  | setField h name v =>
    exact (rt.setField_cases h name v).elim (Refused.moves · nofun) Relayed.moves
  | callMethod h name args =>
    exact (rt.callMethod_cases h name args).elim (Refused.moves · nofun) Relayed.moves
  | release h => exact rt.release_moves h
  | share h => exact rt.share_moves h
  | copy h => exact rt.copy_moves h
  | typeOf h => exact .still rfl rfl rfl
  | state h => exact .still rfl rfl rfl
  | holders h => exact .still rfl rfl rfl

/-! ## Operations that succeed -/

theorem exists_ok_of_finish {α : Type} {r : Invoker.Effect C α} {answer : α → Response}
    {x : Response} (ok : (rt.finish r answer).outcome = .ok x) :
    ∃ a, r.outcome = .ok a ∧ x = answer a := by
  cases ended : r.outcome with
  | ok a => exact ⟨a, rfl, Outcome.ok.inj (ok.symm.trans (finish_outcome_of_ok answer ended))⟩
  | error e => simp [finish, ended, Outcome.bind, Outcome.mapError] at ok
  | panic p => simp [finish, ended, Outcome.bind, Outcome.mapError] at ok

theorem exists_ok_of_checkConstructed {e : ClassEntry C} {r : Invoker.Effect C HostValue}
    {h : Handle} (ok : (checkConstructed e r).outcome = .ok h) : ∃ v, r.outcome = .ok v := by
  unfold checkConstructed at ok
  cases ended : r.outcome with
  | ok v => exact ⟨v, rfl⟩
  | error e => simp [ended] at ok
  | panic p => simp [ended] at ok

/-- An operation succeeds only if its call does. -/
theorem Dispatches.exists_ok {d : Dispatch C} (dispatches : rt.Dispatches op d) {x : Response}
    (ok : (rt.perform op).outcome = .ok x) : ∃ v, (d.effect rt).outcome = .ok v := by
  have dispatch := dispatch?_eq_some_iff.2 dispatches
  have of_relayed {answer : HostValue → Response}
      (cases : rt.Refused op ∨ rt.Relayed op answer) : ∃ v, (d.effect rt).outcome = .ok v := by
    rcases cases with ⟨e, refused, -⟩ | ⟨d', dispatch', perform⟩
    · cases refused.symm.trans dispatch
    · cases dispatch'.symm.trans dispatch
      rw [perform] at ok
      obtain ⟨v, ended, -⟩ := exists_ok_of_finish ok
      exact ⟨v, ended⟩
  have of_constructed (cases : rt.Refused op ∨ rt.Constructed op) :
      ∃ v, (d.effect rt).outcome = .ok v := by
    rcases cases with ⟨e, refused, -⟩ | ⟨e, c, args, -, -, dispatch', perform⟩
    · cases refused.symm.trans dispatch
    · cases dispatch'.symm.trans dispatch
      rw [perform] at ok
      obtain ⟨h, checked, -⟩ := exists_ok_of_finish ok
      exact exists_ok_of_checkConstructed checked
  cases dispatches with
  | call => exact of_relayed (rt.call_cases ..)
  | construct => exact of_constructed (rt.construct_cases ..)
  | constructWith => exact of_constructed (rt.constructWith_cases ..)
  | getField => exact of_relayed (rt.getField_cases ..)
  | setField => exact of_relayed (rt.setField_cases ..)
  | callMethod => exact of_relayed (rt.callMethod_cases ..)

/-! ## Runs -/

/-- The runtime after a run. -/
def after (rt : Runtime C) : List Operation → Runtime C
  | [] => rt
  | op :: ops => (rt.perform op).runtime.after ops

/-- The handles that a run issues, in order. -/
def issuedIn (rt : Runtime C) : List Operation → List Handle
  | [] => []
  | op :: ops => rt.issued op ++ (rt.perform op).runtime.issuedIn ops

theorem after_append (rt : Runtime C) (first second : List Operation) :
    rt.after (first ++ second) = (rt.after first).after second := by
  induction first generalizing rt with
  | nil => rfl
  | cons op ops ih => exact ih (rt.perform op).runtime

theorem after_concat (rt : Runtime C) (ops : List Operation) (op : Operation) :
    rt.after (ops ++ [op]) = ((rt.after ops).perform op).runtime := rt.after_append ops [op]

/-- Under each operation the heap evolves, by the handles that it issues. -/
theorem perform_evolves (rt : Runtime C) (op : Operation) :
    Heap.Evolves rt.heap (rt.issued op) (rt.perform op).runtime.heap := by
  cases rt.perform_moves op with
  | still heap _ issued =>
    rw [heap, issued]
    exact .refl rt.heap
  | called dispatch heap =>
    rw [heap, issued_of_dispatch dispatch]
    exact Dispatch.evolves _ rt
  | misconstructed _ _ dispatch _ _ heap =>
    rw [issued_of_dispatch dispatch]
    obtain heap | ⟨h, last, -, release⟩ := heap
    · rw [heap]
      exact Dispatch.evolves _ rt
    · exact .release (Dispatch.evolves _ rt) release
  | released operation release =>
    rw [operation] at release ⊢
    exact .release (.refl rt.heap) release
  | shared operation share =>
    rw [operation] at share ⊢
    exact .share (.refl rt.heap) share
  | copied _ allocate issued =>
    rw [issued]
    exact .allocate (.refl rt.heap) allocate

/-- Under a run the heap evolves, by the handles that the run issues. By induction on the
operations. -/
theorem after_evolves (rt : Runtime C) (ops : List Operation) :
    Heap.Evolves rt.heap (rt.issuedIn ops) (rt.after ops).heap := by
  induction ops generalizing rt with
  | nil => exact .refl rt.heap
  | cons op ops ih => exact (rt.perform_evolves op).trans (ih (rt.perform op).runtime)

end Runtime

end NativeBridge
