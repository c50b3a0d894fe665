import NativeBridge.Proofs.Wrapper.Failure

/-!
# What depends on the policy for numbers

The policy for numbers decides one thing : what becomes of a host integer where a float is wanted
(`NativeType.Meets`). A conversion that no such integer meets is the same under every policy, and one
that meets it is refused under `NumericPolicy.strict`.

Native code sees the policy if it asks for the outline of its frame, and otherwise by converting
arguments only. So two runs that differ in nothing but the policy are the same as long as no integer
meets a float (`Native.run_congr`). Code is `Native.Prompt` if it does not ask for the outline and does
not succeed after a request has failed : what stops at its first error, with that error, is, and so are
all wrappers. Where an integer has met a float under `strict`, prompt code has failed
(`Request.perform_of_meets`).
-/

namespace NativeBridge

variable {C : Catalog} {α β : Type}

/-! ## Conversions -/

namespace NativeType

/-- The value is an integer, and a float is wanted. -/
def Meets (t : NativeType C) (v : HostValue) : Prop := t.kind = .float ∧ ∃ n, v = .int n

/-- The policy is asked only where an integer meets a float. By induction on the type. -/
theorem fromHost_congr {v : HostValue} (p q : NumericPolicy) (heap : Heap C) :
    {t : NativeType C} → ¬t.Meets v → t.fromHost p heap v = t.fromHost q heap v
  | int _, _ | bool, _ | str, _ | unit, _ | object _, _ => by cases v <;> rfl
  | f32, apart | f64, apart => by
    cases v with
    | int n => exact absurd ⟨rfl, n, rfl⟩ apart
    | none | bool | float | str | object => rfl
  | option t, apart => by
    have content : t.fromHost p heap v = t.fromHost q heap v := fromHost_congr p q heap apart
    cases v <;> simp only [fromHost, content]

/-- Under `strict` an integer never becomes a float, not even under an option. -/
theorem fromHost_strict_of_meets {v : HostValue} (heap : Heap C) :
    {t : NativeType C} → t.Meets v →
      t.fromHost .strict heap v = .error (.typeMismatch "float" "int")
  | int _, meets | bool, meets | str, meets | unit, meets | object _, meets => by cases meets.1
  | f32, meets | f64, meets => by
    obtain ⟨-, n, rfl⟩ := meets
    rfl
  | option t, meets => by
    have content := fromHost_strict_of_meets heap (t := t) meets
    obtain ⟨-, n, rfl⟩ := meets
    simp only [fromHost, content]

end NativeType

/-! ## Requests -/

namespace Request

/-- The request is for an argument as a float, and the argument is an integer. -/
def Meets (args : List HostValue) : Request C → Prop
  | arg index t => ∃ v, args[index]? = some v ∧ t.Meets v
  | _ => False

/-- The answer is an error of the frame. -/
def Failed : (r : Request C) → r.Answer → Prop
  | slot _, a | arg _ _, a | this _, a | thisMut _ _, a | setReturn _ _, a => ∃ e, a = .error e
  | argCount, _ | outline, _ | note _, _ => False

/-- A request that does not let an integer meet a float is the same under both policies. -/
theorem perform_congr {args : List HostValue} {receiver : Option Handle} (p q : NumericPolicy)
    {r : Request C} (blind : r ≠ .outline) (apart : ¬r.Meets args) (s : Activation C) :
    r.perform ⟨args, receiver, p⟩ s = r.perform ⟨args, receiver, q⟩ s := by
  cases r with
  | outline => exact absurd rfl blind
  | arg index t =>
    simp only [perform, Frame.slot]
    cases there : args[index]? with
    | none => rfl
    | some v =>
      have meets : ¬t.Meets v := fun meets => apart ⟨v, there, meets⟩
      simp only [NativeType.fromHost_congr p q s.heap meets]
  | argCount | slot | this | thisMut | setReturn | note => rfl

/-- Under the strict policy an integer that meets a float is refused. -/
theorem perform_of_meets {f : Frame} (strict : f.policy = .strict) {r : Request C}
    (meets : r.Meets f.args) (s : Activation C) :
    ∃ a, (r.perform f s).1 = .ok a ∧ r.Failed a := by
  cases r with
  | arg index t =>
    obtain ⟨v, there, meets⟩ := meets
    simp only [perform, Frame.slot, there, strict, NativeType.fromHost_strict_of_meets s.heap meets]
    exact ⟨_, rfl, _, rfl⟩
  | _ => exact meets.elim

end Request

/-- The exchange ends with an error of the frame. -/
def Exchange.Fails (e : Exchange C) : Prop := ∃ a, e.answer = .ok a ∧ e.request.Failed a

/-! ## Runs -/

namespace Native

/-- The exchanges of a program that asks are the first one and those after its answer. -/
theorem mem_transcript_ask {r : Request C} {k : r.Answer → Native C α} {f : Frame}
    {s : Activation C} {e : Exchange C} :
    e ∈ (ask r k).transcript f s ↔
      e = r.exchange f s ∨ ∃ a t, r.perform f s = (.ok a, t) ∧ e ∈ (k a).transcript f t := by
  rcases hp : r.perform f s with ⟨p | a, t⟩
  · rw [transcript_ask_of_panic hp]
    simp
  · rw [transcript_ask_of_ok hp, List.mem_cons]
    refine or_congr Iff.rfl ⟨fun later => ⟨a, t, rfl, later⟩, ?_⟩
    rintro ⟨a', t', same, later⟩
    cases same
    exact later

/-- Two runs that differ in the policy only are the same if no integer meets a float and the code
does not look at the outline. By induction on the code : the exchanges are the same one by one. -/
theorem run_congr {args : List HostValue} {receiver : Option Handle} (p q : NumericPolicy)
    (code : Native C α) (s : Activation C)
    (apart : ∀ e ∈ code.transcript ⟨args, receiver, q⟩ s,
      e.request ≠ .outline ∧ ¬e.request.Meets args) :
    code.run ⟨args, receiver, p⟩ s = code.run ⟨args, receiver, q⟩ s := by
  induction code generalizing s with
  | finish o => rfl
  | ask r k ih =>
    obtain ⟨blind, meets⟩ := apart _ (mem_transcript_ask.2 (Or.inl rfl))
    have same : r.perform ⟨args, receiver, p⟩ s = r.perform ⟨args, receiver, q⟩ s :=
      Request.perform_congr p q blind meets s
    rcases hp : r.perform ⟨args, receiver, q⟩ s with ⟨cause | a, t⟩
    · rw [run_ask_of_panic hp, run_ask_of_panic (same.trans hp)]
    · rw [run_ask_of_ok hp, run_ask_of_ok (same.trans hp)]
      exact ih a t fun e he => apart e (mem_transcript_ask.2 (Or.inr ⟨a, t, hp, he⟩))

/-- The code does not look at the outline of its frame, and it does not succeed after a request has
failed. -/
structure Prompt (m : Native C α) : Prop where
  blind : m.Throughout fun e => e.request ≠ .outline
  stops : ∀ f s a s', m.run f s = (.ok a, s') → ∀ e ∈ m.transcript f s, ¬e.Fails

/-- Every exchange of a run is that of a request in its frame. -/
theorem exists_of_mem_transcript {m : Native C α} {f : Frame} {s : Activation C} {e : Exchange C}
    (he : e ∈ m.transcript f s) : ∃ (r : Request C) (t : Activation C), e = r.exchange f t := by
  induction m generalizing s with
  | finish o => cases he
  | ask r k ih =>
    rcases mem_transcript_ask.1 he with rfl | ⟨a, t, -, he⟩
    · exact ⟨r, s, rfl⟩
    · exact ih a he

end Native

/-- An invocation depends on the policy as far as its run does. -/
theorem Invoker.invoke_congr {inv inv' : Invoker} {native : NativeFn C} {site : CallSite}
    {receiver : Option Handle} {args : List HostValue} {heap : Heap C}
    (contained : inv'.catchPanics = inv.catchPanics)
    (run : args.length = site.params.length →
      native.code.run ⟨args, receiver, inv'.policy⟩ { heap } =
        native.code.run ⟨args, receiver, inv.policy⟩ { heap }) :
    inv'.invoke native site receiver args heap = inv.invoke native site receiver args heap := by
  unfold invoke
  split
  · next arity => simp only [call, run arity, contained]
  · rfl

namespace Native

/-! ## Prompt programs -/

theorem prompt_finish (o : Outcome NativeError α) : (finish o : Native C α).Prompt :=
  ⟨throughout_finish o, fun _ _ _ _ _ _ he => by cases he⟩

/-- A request is prompt if nothing succeeds after it has failed. -/
theorem prompt_ask {r : Request C} {k : r.Answer → Native C α} (blind : r ≠ .outline)
    (stops : ∀ a, r.Failed a → ∀ f s b s', (k a).run f s ≠ (.ok b, s'))
    (rest : ∀ a, (k a).Prompt) : (ask r k).Prompt where
  blind := by
    intro f s e he
    rcases mem_transcript_ask.1 he with rfl | ⟨a, t, -, he⟩
    · exact blind
    · exact (rest a).blind f t e he
  stops := by
    intro f s b s' ok e he
    rcases hp : r.perform f s with ⟨p | a, t⟩
    · rw [run_ask_of_panic hp] at ok
      cases ok
    · rw [run_ask_of_ok hp] at ok
      rcases mem_transcript_ask.1 he with rfl | ⟨a', t', hp', he⟩
      · rintro ⟨a', answer, failed⟩
        have same : a = a' := Except.ok.inj ((congrArg Prod.fst hp).symm.trans answer)
        exact stops a (same ▸ failed) f t b s' ok
      · cases hp.symm.trans hp'
        exact (rest a).stops f t b s' ok e he

theorem Prompt.bind {m : Native C α} {k : α → Native C β} (first : m.Prompt)
    (second : ∀ a, (k a).Prompt) : (m >>= k).Prompt where
  blind := first.blind.bind fun a => (second a).blind
  stops := by
    intro f s b s' ok e he
    obtain ⟨a, t, here, rest⟩ := run_bind_eq_ok_iff.1 ok
    rw [transcript_bind, here] at he
    rcases List.mem_append.1 he with he | he
    · exact first.stops f s a t here e he
    · exact (second a).stops f t b s' rest e he

theorem prompt_demand (x : Except NativeError α) : (demand x : Native C α).Prompt := by
  cases x <;> exact prompt_finish _

/-- What is demanded and is not there ends the code. -/
theorem demand_ne_ok (x : Except NativeError α) (failed : ∃ e, x = .error e) (f : Frame)
    (s : Activation C) (a : α) (s' : Activation C) : (demand x).run f s ≠ (.ok a, s') := by
  obtain ⟨e, rfl⟩ := failed
  nofun

theorem prompt_arg (index : Nat) (t : NativeType C) : (arg index t).Prompt :=
  prompt_ask nofun demand_ne_ok prompt_demand

theorem prompt_this (o : C.Obj) : (this o).Prompt :=
  prompt_ask nofun demand_ne_ok prompt_demand

theorem prompt_thisMut (o : C.Obj) (change : C.Instance o → C.Instance o) :
    (thisMut o change).Prompt :=
  prompt_ask nofun demand_ne_ok prompt_demand

theorem prompt_setReturn (t : NativeType C) (v : t.Value) : (setReturn t v).Prompt :=
  prompt_ask nofun demand_ne_ok prompt_demand

/-- All that wrappers are put together from is prompt. -/
theorem wrapping_prompt : Wrapping (C := C) (fun _ => Prompt) Prompt where
  pure _ := prompt_finish _
  bind := Prompt.bind
  this := prompt_this
  ofClone copy := by cases copy <;> exact prompt_finish _
  last := Prompt.bind
  ends _ := prompt_finish _

end Native

open Native

/-! ## Wrappers -/

theorem Callable.prompt_code (c : Callable C) : c.code.Prompt :=
  wrapping_prompt.code c (fun i p _ => prompt_arg i p.type) (fun o _ _ => prompt_thisMut o)
    (prompt_setReturn c.returns)

theorem Property.prompt_getter {o : C.Obj} (p : Property C o) : p.getter.Prompt :=
  wrapping_prompt.getter p (prompt_setReturn p.type)

theorem Property.prompt_setter {o : C.Obj} (p : Property C o)
    (set : p.type.Value → C.Instance o → C.Instance o) : (p.setter set).Prompt :=
  wrapping_prompt.setter p set (prompt_arg 0 p.type) (prompt_thisMut o)

end NativeBridge
