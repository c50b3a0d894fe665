import NativeBridge.Gallery.Exhibit
import NativeBridge.Proofs.Registry.Lookup
import NativeBridge.Runtime
import NativeBridge.Wrapper

/-!
# The kinds of errors

Each operation of a runtime has a few kinds of errors that it can fail with (`Operation.failures`),
whatever native code is registered, whatever that code returns, and whether it panics or not. An error
of native code becomes one of three kinds (`callFailures`); around a call stand the lookups and the
check of the number of arguments, and a constructor's errors are told as errors of construction
(`BindingError.kind_inConstruction`).

Each function on the way has one lemma about the kinds of its errors, `Outcome.FailsAs`, and
`Runtime.perform_error_kind` puts them together for the operations.
-/

namespace NativeBridge

variable {C : Catalog}

/-- The kinds of errors that an operation can fail with. -/
def Operation.failures : Operation → List ErrorKind
  | call .. => [.notFound, .arity, .typeMismatch, .useAfterFree, .nativeFailure]
  | construct .. | constructWith .. => [.notFound, .arity, .construction, .useAfterFree]
  | getField .. => [.useAfterFree, .notFound, .noSuchField, .typeMismatch, .nativeFailure]
  | setField .. =>
    [.useAfterFree, .notFound, .noSuchField, .typeMismatch, .nativeFailure, .readOnlyField]
  | callMethod .. =>
    [.useAfterFree, .notFound, .noSuchMethod, .arity, .typeMismatch, .nativeFailure]
  | copy .. => [.useAfterFree, .notFound, .sharingViolation, .typeMismatch]
  | share .. => [.useAfterFree, .sharingViolation]
  | release .. => [.useAfterFree]
  | typeOf .. => [.useAfterFree, .notFound]
  | state .. | holders .. => []

/-- The operation constructs an instance. -/
def Operation.Constructs : Operation → Prop
  | construct .. | constructWith .. => True
  | _ => False

/-- The operation reads or overwrites a field. -/
def Operation.Accesses : Operation → Prop
  | getField .. | setField .. => True
  | _ => False

/-- The kinds of errors that native code can cause by itself. -/
def callFailures : List ErrorKind := [.typeMismatch, .useAfterFree, .nativeFailure]

namespace Outcome

variable {α : Type} {kinds more : List ErrorKind}

/-- Any error of the outcome is of one of the kinds. -/
def FailsAs (o : Outcome BindingError α) (kinds : List ErrorKind) : Prop :=
  ∀ e, o = .error e → e.kind ∈ kinds

theorem failsAs_ok (a : α) : (ok a : Outcome BindingError α).FailsAs kinds := nofun

theorem failsAs_panic (p : Payload) : (panic p : Outcome BindingError α).FailsAs kinds := nofun

theorem failsAs_error {e : BindingError} (h : e.kind ∈ kinds) :
    (error e : Outcome BindingError α).FailsAs kinds := by
  rintro _ ⟨⟩
  exact h

theorem failsAs_of_kind {e : BindingError} (kind : ErrorKind) (same : e.kind = kind)
    (mem : kind ∈ kinds) : (error e : Outcome BindingError α).FailsAs kinds :=
  failsAs_error (same ▸ mem)

theorem FailsAs.mono {o : Outcome BindingError α} (h : o.FailsAs kinds) (sub : kinds ⊆ more) :
    o.FailsAs more := fun e failed => sub (h e failed)

theorem FailsAs.bind {β : Type} {o : Outcome BindingError α} (h : o.FailsAs kinds) (f : α → β) :
    (o.bind fun a => .ok (f a)).FailsAs kinds := by
  cases o with
  | ok a => exact failsAs_ok _
  | error e => exact failsAs_error (h e rfl)
  | panic p => exact failsAs_panic p

theorem failsAs_mapError {ε : Type} {o : Outcome ε α} {f : ε → BindingError}
    (h : ∀ cause, (f cause).kind ∈ kinds) : (o.mapError f).FailsAs kinds := by
  cases o with
  | ok a => exact failsAs_ok a
  | error cause => exact failsAs_error (h cause)
  | panic p => exact failsAs_panic p

end Outcome

/-! ## From the error of native code to that of a call -/

/-- A conversion fails for a stale handle or for a value of the wrong type. -/
theorem BindingError.kind_ofConversion (context target : String) (cause : ConversionError) :
    (ofConversion context target cause).kind ∈ [ErrorKind.useAfterFree, .typeMismatch] := by
  cases cause <;> simp [ofConversion, kind]

/-- While an instance is constructed, a type mismatch or a native failure is one of construction. -/
theorem BindingError.kind_inConstruction (typeName : String) (e : BindingError) :
    (e.inConstruction typeName).kind =
      if e.kind ∈ [ErrorKind.typeMismatch, .nativeFailure] then .construction else e.kind := by
  cases e <;> rfl

/-- The failure of native code is reported as one of three kinds. -/
theorem CallSite.kind_report (site : CallSite) (cause : NativeError) :
    (site.report cause).kind ∈ callFailures := by
  have sub : [ErrorKind.useAfterFree, .typeMismatch] ⊆ callFailures := by decide
  cases cause with
  | argument index source =>
    exact sub (BindingError.kind_ofConversion site.text (site.paramName index) source)
  | _ => simp [report, BindingError.kind, callFailures]

section Calls

variable {inv : Invoker} {native : NativeFn C} {site : CallSite} {receiver : Option Handle}
  {args : List HostValue} {heap : Heap C}

/-- A call with the right number of arguments fails as its native code does. -/
theorem Invoker.invoke_failsAs_of_length (arity : args.length = site.params.length) :
    (inv.invoke native site receiver args heap).outcome.FailsAs callFailures := by
  rw [invoke, if_pos arity]
  exact Outcome.failsAs_mapError site.kind_report

/-- A call fails for the number of arguments, or as its native code does. -/
theorem Invoker.invoke_failsAs :
    (inv.invoke native site receiver args heap).outcome.FailsAs (.arity :: callFailures) := by
  by_cases arity : args.length = site.params.length
  · exact (invoke_failsAs_of_length arity).mono (List.subset_cons_self ..)
  · rw [invoke, if_neg arity]
    exact Outcome.failsAs_error (List.mem_cons_self ..)

end Calls

/-! ## Errors of the heap and of keywords -/

theorem Heap.kind_of_release {heap : Heap C} {h : Handle} {cause : BindingError}
    (failed : heap.release h = .error cause) : cause.kind = .useAfterFree := by
  unfold release at failed
  split at failed
  · cases failed
    rfl
  · dsimp only at failed
    split at failed <;> cases failed

theorem Heap.kind_of_share {heap : Heap C} {h : Handle} {cause : BindingError}
    (failed : heap.share h = .error cause) :
    cause.kind ∈ [ErrorKind.useAfterFree, .sharingViolation] := by
  unfold share at failed
  split at failed
  · cases failed
    exact List.mem_cons_self ..
  · split at failed <;> cases failed
    exact List.mem_cons_of_mem _ (List.mem_singleton_self _)

/-- Errors of a fold are errors of its steps. -/
theorem of_foldlM_eq_error {σ β : Type} {step : σ → β → Except BindingError σ}
    {P : BindingError → Prop} (each : ∀ s b cause, step s b = .error cause → P cause) (bs : List β)
    {s : σ} {cause : BindingError} (failed : bs.foldlM step s = .error cause) : P cause := by
  induction bs generalizing s with
  | nil => cases failed
  | cons b bs ih =>
    rw [List.foldlM_cons] at failed
    cases run : step s b with
    | error other =>
      rw [run] at failed
      cases failed
      exact each s b _ run
    | ok s' =>
      rw [run] at failed
      exact ih failed

namespace Slots

variable {typeName keyword : String} {v : HostValue} {s : Slots} {cause : BindingError}

theorem kind_of_bind (failed : s.bind typeName keyword v = .error cause) :
    cause.kind = .construction := by
  induction s with
  | nil =>
    cases failed
    rfl
  | cons slot rest ih =>
    obtain ⟨p, bound⟩ := slot
    rw [bind.eq_def] at failed
    dsimp only at failed
    split at failed
    · split at failed <;> cases failed
      rfl
    · cases run : Slots.bind typeName keyword v rest with
      | error e =>
        rw [run] at failed
        cases failed
        exact ih run
      | ok s' =>
        rw [run] at failed
        cases failed

theorem kind_of_values (failed : s.values typeName = .error cause) :
    cause.kind = .construction := by
  induction s with
  | nil => cases failed
  | cons slot rest ih =>
    obtain ⟨p, _ | w⟩ := slot
    · cases failed
      rfl
    · rw [values] at failed
      cases run : Slots.values typeName rest with
      | error e =>
        rw [run] at failed
        cases failed
        exact ih run
      | ok vs =>
        rw [run] at failed
        cases failed

end Slots

/-- Keywords fail for the number of arguments or for a construction error. -/
theorem kind_of_bindKeywords {typeName : String} {params : List Param} {args : List HostValue}
    {keywords : List (String × HostValue)} {cause : BindingError}
    (failed : bindKeywords typeName params args keywords = .error cause) :
    cause.kind ∈ [ErrorKind.arity, .construction] := by
  unfold bindKeywords at failed
  split at failed
  · cases failed
    exact List.mem_cons_self ..
  · refine List.mem_cons_of_mem _ (List.mem_singleton.2 ?_)
    cases run : keywords.foldlM (fun (s : Slots) k => s.bind typeName k.1 k.2)
        (Slots.ofPositional params args) with
    | error e =>
      simp only [run] at failed
      cases failed
      exact of_foldlM_eq_error (fun _ _ _ => Slots.kind_of_bind) keywords run
    | ok s =>
      simp only [run] at failed
      exact Slots.kind_of_values failed

/-! ## Operations -/

namespace Runtime

variable {rt : Runtime C} {kinds : List ErrorKind} {cause : BindingError}

/-- A handle has no class if it is stale or of an identity that nothing is registered for. -/
theorem kind_of_classFor {h : Handle} (failed : rt.classFor h = .error cause) :
    cause.kind ∈ [ErrorKind.useAfterFree, .notFound] := by
  unfold classFor at failed
  split at failed
  · cases failed
    exact List.mem_cons_self ..
  · split at failed <;> cases failed
    exact List.mem_cons_of_mem _ (List.mem_singleton_self _)

theorem call_failsAs (name : String) (args : List HostValue) :
    (rt.call name args).outcome.FailsAs (.notFound :: .arity :: callFailures) := by
  unfold call
  cases found : rt.registry.function name with
  | error cause =>
    rw [(Registry.function_eq_error_iff.1 found).1]
    exact Outcome.failsAs_of_kind .notFound rfl (by decide)
  | ok f => exact Invoker.invoke_failsAs.mono (by decide)

/-! ### Construction -/

/-- Whatever a constructor fails with is a construction error, except for the number of arguments
and for stale handles. -/
theorem checkConstructed_failsAs (e : ClassEntry C) {r : Invoker.Effect C HostValue}
    (failures : r.outcome.FailsAs (.arity :: callFailures)) :
    (checkConstructed e r).outcome.FailsAs [.arity, .construction, .useAfterFree] := by
  unfold checkConstructed
  cases outcome : r.outcome with
  | panic p => exact Outcome.failsAs_panic p
  | error cause =>
    refine Outcome.failsAs_error ?_
    have kind := failures cause outcome
    rw [BindingError.kind_inConstruction]
    split
    · decide
    next other =>
      simp only [callFailures, List.mem_cons, List.not_mem_nil] at kind other ⊢
      grind
  | ok v =>
    cases v with
    | object h =>
      dsimp only
      split
      · exact Outcome.failsAs_ok h
      · cases released : r.heap.release h with
        | error cause =>
          exact Outcome.failsAs_of_kind .useAfterFree (Heap.kind_of_release released) (by decide)
        | ok p => exact Outcome.failsAs_of_kind .construction rfl (by decide)
    | _ => exact Outcome.failsAs_of_kind .construction rfl (by decide)

theorem runConstructor_failsAs (e : ClassEntry C) (args : List HostValue) :
    (rt.runConstructor e args).outcome.FailsAs [.arity, .construction, .useAfterFree] := by
  unfold runConstructor
  cases e.constructor with
  | none => exact Outcome.failsAs_of_kind .construction rfl (by decide)
  | some c => exact checkConstructed_failsAs e Invoker.invoke_failsAs

theorem construct_failsAs (typeName : String) (args : List HostValue) :
    (rt.construct typeName args).outcome.FailsAs
      [.notFound, .arity, .construction, .useAfterFree] := by
  unfold construct
  cases found : rt.registry.classNamed typeName with
  | error cause =>
    rw [(Registry.classNamed_eq_error_iff.1 found).1]
    exact Outcome.failsAs_of_kind .notFound rfl (by decide)
  | ok e => exact (runConstructor_failsAs e args).mono (by decide)

theorem constructWith_failsAs (typeName : String) (args : List HostValue)
    (keywords : List (String × HostValue)) :
    (rt.constructWith typeName args keywords).outcome.FailsAs
      [.notFound, .arity, .construction, .useAfterFree] := by
  unfold constructWith
  cases found : rt.registry.classNamed typeName with
  | error cause =>
    rw [(Registry.classNamed_eq_error_iff.1 found).1]
    exact Outcome.failsAs_of_kind .notFound rfl (by decide)
  | ok e =>
    dsimp only
    cases e.constructor with
    | none => exact Outcome.failsAs_of_kind .construction rfl (by decide)
    | some c =>
      dsimp only
      cases bound : bindKeywords e.name c.params args keywords with
      | error cause =>
        have sub : [ErrorKind.arity, .construction] ⊆
            [.notFound, .arity, .construction, .useAfterFree] := by decide
        exact Outcome.failsAs_error (sub (kind_of_bindKeywords bound))
      | ok values => exact (runConstructor_failsAs e values).mono (by decide)

/-! ### Instances -/

/-- An operation on a handle fails as the search for its class does, or as what it does with the
class. -/
theorem failsAs_of_classFor {α : Type} {h : Handle} {k : ClassEntry C → Invoker.Effect C α}
    (each : ∀ e, (k e).outcome.FailsAs kinds) (sub : [.useAfterFree, .notFound] ⊆ kinds) :
    (match rt.classFor h with
      | .error cause => rt.refuse cause
      | .ok e => k e).outcome.FailsAs kinds := by
  cases found : rt.classFor h with
  | error cause => exact Outcome.failsAs_error (sub (kind_of_classFor found))
  | ok e => exact each e

theorem getField_failsAs (h : Handle) (name : String) :
    (rt.getField h name).outcome.FailsAs
      [.useAfterFree, .notFound, .noSuchField, .typeMismatch, .nativeFailure] := by
  refine failsAs_of_classFor (fun e => ?_) (by decide)
  cases found : e.field name with
  | error cause =>
    rw [(ClassEntry.field_eq_error_iff.1 found).1]
    exact Outcome.failsAs_of_kind .noSuchField rfl (by decide)
  | ok f => exact (Invoker.invoke_failsAs_of_length rfl).mono (by decide)

theorem setField_failsAs (h : Handle) (name : String) (v : HostValue) :
    (rt.setField h name v).outcome.FailsAs
      [.useAfterFree, .notFound, .noSuchField, .typeMismatch, .nativeFailure, .readOnlyField] := by
  refine failsAs_of_classFor (fun e => ?_) (by decide)
  cases found : e.field name with
  | error cause =>
    rw [(ClassEntry.field_eq_error_iff.1 found).1]
    exact Outcome.failsAs_of_kind .noSuchField rfl (by decide)
  | ok f =>
    dsimp only
    cases f.setter with
    | none => exact Outcome.failsAs_of_kind .readOnlyField rfl (by decide)
    | some setter => exact ((Invoker.invoke_failsAs_of_length rfl).mono (by decide)).bind _

theorem callMethod_failsAs (h : Handle) (name : String) (args : List HostValue) :
    (rt.callMethod h name args).outcome.FailsAs
      [.useAfterFree, .notFound, .noSuchMethod, .arity, .typeMismatch, .nativeFailure] := by
  refine failsAs_of_classFor (fun e => ?_) (by decide)
  cases found : e.method name with
  | error cause =>
    rw [(ClassEntry.method_eq_error_iff.1 found).1]
    exact Outcome.failsAs_of_kind .noSuchMethod rfl (by decide)
  | ok m => exact Invoker.invoke_failsAs.mono (by decide)

theorem copy_failsAs (h : Handle) :
    (rt.copy h).outcome.FailsAs [.useAfterFree, .notFound, .sharingViolation, .typeMismatch] := by
  refine failsAs_of_classFor (fun e => ?_) (by decide)
  cases e.copy with
  | none => exact Outcome.failsAs_of_kind .sharingViolation rfl (by decide)
  | some rule =>
    have each := BindingError.kind_ofConversion e.name e.name
    exact (Outcome.failsAs_mapError each).mono (by decide)

theorem release_failsAs (h : Handle) : (rt.release h).outcome.FailsAs [.useAfterFree] := by
  unfold release
  cases released : rt.heap.release h with
  | error cause => exact Outcome.failsAs_of_kind .useAfterFree (Heap.kind_of_release released) (by decide)
  | ok p => exact Outcome.failsAs_ok p.1

theorem share_failsAs (h : Handle) :
    (rt.share h).outcome.FailsAs [.useAfterFree, .sharingViolation] := by
  unfold share
  cases shared : rt.heap.share h with
  | error cause => exact Outcome.failsAs_error (Heap.kind_of_share shared)
  | ok p => exact Outcome.failsAs_ok h

/-! ### All of them -/

variable (rt : Runtime C)

/-- What the host receives has the kind of what went wrong. -/
theorem kind_of_finish {α : Type} {r : Invoker.Effect C α} {answer : α → Response} {err : HostError}
    (failures : r.outcome.FailsAs kinds) (failed : (rt.finish r answer).outcome = .error err) :
    err.kind ∈ kinds := by
  unfold finish at failed
  cases outcome : r.outcome with
  | ok a => simp [outcome, Outcome.bind, Outcome.mapError] at failed
  | panic p => simp [outcome, Outcome.bind, Outcome.mapError] at failed
  | error cause =>
    simp only [outcome, Outcome.bind, Outcome.mapError, Outcome.error.injEq] at failed
    rw [← failed]
    exact failures cause outcome

/-- Each operation fails with the kinds that are its own. One case for each operation. -/
theorem kind_of_perform (op : Operation) {err : HostError}
    (failed : (rt.perform op).outcome = .error err) : err.kind ∈ op.failures := by
  cases op with
  | call name args => exact rt.kind_of_finish (call_failsAs name args) failed
  | construct typeName args => exact rt.kind_of_finish (construct_failsAs typeName args) failed
  | constructWith typeName args keywords =>
    exact rt.kind_of_finish (constructWith_failsAs typeName args keywords) failed
  | getField h name => exact rt.kind_of_finish (getField_failsAs h name) failed
  | setField h name v => exact rt.kind_of_finish (setField_failsAs h name v) failed
  | callMethod h name args => exact rt.kind_of_finish (callMethod_failsAs h name args) failed
  | release h => exact rt.kind_of_finish (release_failsAs h) failed
  | share h => exact rt.kind_of_finish (share_failsAs h) failed
  | copy h => exact rt.kind_of_finish (copy_failsAs h) failed
  | typeOf h =>
    simp only [perform, answer, typeOf] at failed
    cases found : rt.classFor h with
    | ok e => simp [found, Except.map, Outcome.ofExcept, Outcome.mapError] at failed
    | error cause =>
      simp only [found, Except.map, Outcome.ofExcept, Outcome.mapError, Outcome.error.injEq] at failed
      rw [← failed]
      exact kind_of_classFor found
  | state h => cases failed
  | holders h => cases failed

/-- Whatever is registered, and whatever it returns or panics with, an operation fails with an error of
the kinds that its sort of operation has. A construction never fails with a type mismatch or a native
failure, and an access to a field never with an error about the number of arguments. -/
theorem perform_error_kind (op : Operation) (err : HostError)
    (failed : (rt.perform op).outcome = .error err) :
    err.kind ∈ op.failures ∧
      (op.Constructs → err.kind ≠ .typeMismatch ∧ err.kind ≠ .nativeFailure) ∧
      (op.Accesses → err.kind ≠ .arity) := by
  have kind := rt.kind_of_perform op failed
  have other : ∀ k, k ∉ op.failures → err.kind ≠ k := by
    rintro _ absent rfl
    exact absent kind
  refine ⟨kind, fun constructs => ?_, fun accesses => ?_⟩
  · cases op with
    | construct | constructWith =>
      exact ⟨other _ (by simp [Operation.failures]), other _ (by simp [Operation.failures])⟩
    | _ => cases constructs
  · cases op with
    | getField | setField => exact other _ (by simp [Operation.failures])
    | _ => cases accesses

open Gallery in
/-- A constructor that panics : the panic is told as an error of construction. -/
theorem perform_error_kind_panic :
    let make : ConstructorMeta catalog := ⟨[], .empty, .panic (.message "boom")⟩
    let entry : ClassEntry catalog :=
      ⟨.empty, "Tag", catalog.identity .tag, .shared, none, some make, true⟩
    let rt : Runtime catalog := ⟨(Registry.empty "tags").pushClass entry rfl rfl, {}, .empty⟩
    let op : Operation := .construct "Tag" []
    ∃ err, (rt.perform op).outcome = .error err ∧ err.kind = .construction ∧
      err.kind ∈ op.failures ∧ err.kind ≠ .nativeFailure := by
  intro make entry rt op
  have found : rt.registry.classNamed "Tag" = .ok entry :=
    Registry.classNamed_eq_ok_iff.2 ⟨List.mem_singleton_self entry, rfl⟩
  have failed : ∃ err, (rt.perform op).outcome = .error err ∧ err.kind = .construction := by
    simp only [op, perform, construct, found]
    exact ⟨_, rfl, rfl⟩
  obtain ⟨err, failed, construction⟩ := failed
  obtain ⟨kind, constructs, -⟩ := perform_error_kind rt op err failed
  exact ⟨err, failed, construction, kind, (constructs trivial).2⟩

end Runtime

end NativeBridge
