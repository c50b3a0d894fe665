import NativeBridge.Gallery.Sample
import NativeBridge.Proofs.Marshal.Floats
import NativeBridge.Proofs.Native.Run
import NativeBridge.Proofs.Native.Transcript

/-!
# What an invocation of a wrapper does

The wrapper of a callable is invoked with a list of arguments and perhaps a receiver.
`Callable.Behaves` gives the rules of that, one for each way it can go : the number of arguments is
wrong; the arguments convert up to one that does not; all of them convert and the receiver is
missing, stale or of another type; or the function is applied, once, to the values and the receiver
as they were before the call (`Body.Applies`), and how it ends is how the call ends
(`Invoker.conclude`). Before the function is applied nothing happens to the heap.

`Invoker.invoke_eq_iff` : an invocation has an effect if and only if the rules give it. The wrappers
of fields are those of callables, too (`Callable.Wraps`).
-/

namespace NativeBridge

variable {C : Catalog}

/-! ## Generated wrappers -/

namespace Property

variable {o : C.Obj}

/-- A copy that may panic, as the result of a function. -/
def ofCopy {α : Type} : Except Payload α → Outcome String α
  | .ok copy => .ok copy
  | .error p => .panic p

/-- Reading the field, as a function of the instance. -/
def reader (p : Property C o) : Callable C :=
  ⟨[], p.type, .reading o fun self _ => ofCopy (p.type.clone (p.get self))⟩

/-- Writing the field, as a function that changes the instance. -/
def writer (p : Property C o) (set : p.type.Value → C.Instance o → C.Instance o) : Callable C :=
  ⟨[⟨p.name, p.type⟩], .unit, .changing o fun self (value, ()) => (set value self, .ok ())⟩

end Property

/-- The native code is the wrapper of the callable. -/
inductive Callable.Wraps : Callable C → Native C Unit → Prop
  | callable (c : Callable C) : Wraps c c.code
  | getter {o : C.Obj} (p : Property C o) : Wraps p.reader p.getter
  | setter {o : C.Obj} (p : Property C o) (set : p.type.Value → C.Instance o → C.Instance o) :
      Wraps (p.writer set) (p.setter set)

/-! ## The rules -/

/-- The arguments convert to the values, each by the type of its parameter. -/
inductive Converts (policy : NumericPolicy) (heap : Heap C) :
    (ps : List (Parameter C)) → List HostValue → Arguments ps → Prop
  | nil : Converts policy heap [] [] ()
  | cons {p : Parameter C} {ps : List (Parameter C)} {v : HostValue} {vs : List HostValue}
      {a : p.type.Value} {as : Arguments ps} (first : p.type.fromHost policy heap v = .ok a)
      (rest : Converts policy heap ps vs as) : Converts policy heap (p :: ps) (v :: vs) (a, as)

/-- There are as many arguments as parameters, and those before the given one convert. -/
structure ConvertsUpTo (policy : NumericPolicy) (heap : Heap C) (ps : List (Parameter C))
    (args : List HostValue) (i : Nat) (p : Parameter C) (v : HostValue) : Prop where
  arity : args.length = ps.length
  param : ps[i]? = some p
  arg : args[i]? = some v
  earlier : ∀ j < i, ∀ q w, ps[j]? = some q → args[j]? = some w →
    ∃ a, q.type.fromHost policy heap w = .ok a

namespace Body

variable {ps : List (Parameter C)} {t : NativeType C}

/-- The type of the receiver, if the function takes one. -/
def receiver? : Body C ps t → Option C.Obj
  | free _ => none
  | reading o _ | copying o _ | changing o _ => some o

/-- The function is applied to the values, and to its receiver if it takes one. It ends like this
and leaves this heap. -/
inductive Applies (heap : Heap C) (receiver : Option Handle) (values : Arguments ps) :
    Body C ps t → Outcome String t.Value → Heap C → Prop
  | free (f : Arguments ps → Outcome String t.Value) :
      Applies heap receiver values (.free f) (f values) heap
  | reading {o : C.Obj} (f : C.Instance o → Arguments ps → Outcome String t.Value) {h : Handle}
      {self : C.Instance o} (named : receiver = some h) (found : heap.get o h = .ok self) :
      Applies heap receiver values (.reading o f) (f self values) heap
  | copying {o : C.Obj} (f : C.Instance o → Arguments ps → Outcome String t.Value) {h : Handle}
      {self copy : C.Instance o} (named : receiver = some h) (found : heap.get o h = .ok self)
      (copied : C.clone o self = .ok copy) :
      Applies heap receiver values (.copying o f) (f copy values) heap
  | changing {o : C.Obj} (f : C.Instance o → Arguments ps → C.Instance o × Outcome String t.Value)
      {h : Handle} {self : C.Instance o} {holders : Nat} {mutated : Bool}
      (named : receiver = some h) (live : heap.occupant? h = some ⟨o, self, holders, mutated⟩) :
      Applies heap receiver values (.changing o f) (f self values).2
        (heap.put h ⟨o, (f self values).1, holders, true⟩)

end Body

namespace Invoker

/-- What a panic of native code comes to. -/
def panicked (inv : Invoker) (site : CallSite) (p : Payload) (heap : Heap C) :
    Effect C HostValue where
  outcome :=
    if inv.catchPanics then .error (.nativeFailure site.text (NativeError.ofPanic p).message)
    else .panic p
  heap := heap

/-- What the end of a function comes to : its result is marshalled and becomes the return value. -/
def conclude (inv : Invoker) (site : CallSite) (t : NativeType C) :
    Outcome String t.Value → Heap C → Effect C HostValue
  | .ok v, heap =>
    match t.toHost v heap with
    | .ok (result, heap) => ⟨.ok result, heap, []⟩
    | .error e => ⟨.error (.nativeFailure site.text (NativeError.result e).message), heap, []⟩
  | .error reason, heap => ⟨.error (.nativeFailure site.text reason), heap, []⟩
  | .panic p, heap => inv.panicked site p heap

end Invoker

/-- The rules of an invocation, by its effect. -/
inductive Callable.Behaves (inv : Invoker) (c : Callable C) (site : CallSite)
    (receiver : Option Handle) (args : List HostValue) (heap : Heap C) :
    Invoker.Effect C HostValue → Prop
  | arity (wrong : args.length ≠ c.params.length) :
      Behaves inv c site receiver args heap
        ⟨.error (.arity site.text c.params.length args.length), heap, []⟩
  | staleArgument {i : Nat} {p : Parameter C} {h : Handle}
      (reached : ConvertsUpTo inv.policy heap c.params args i p (.object h))
      (stale : heap.occupant? h = none)
      (failed : p.type.fromHost inv.policy heap (.object h) =
        .error (.staleHandle h.index h.generation)) :
      Behaves inv c site receiver args heap
        ⟨.error (.useAfterFree h.index h.generation), heap, []⟩
  | wrongArgument {i : Nat} {p : Parameter C} {v : HostValue} {e : ConversionError}
      (reached : ConvertsUpTo inv.policy heap c.params args i p v)
      (failed : p.type.fromHost inv.policy heap v = .error e)
      (other : ∀ index generation, e ≠ .staleHandle index generation) :
      Behaves inv c site receiver args heap
        ⟨.error (.typeMismatch site.text p.name e.expected e.actual), heap, []⟩
  /-- Copying an instance out of the heap has panicked. -/
  | argumentPanic {i : Nat} {p : Parameter C} {v : HostValue} {q : Payload}
      (reached : ConvertsUpTo inv.policy heap c.params args i p v)
      (failed : p.type.fromHost inv.policy heap v = .panic q) :
      Behaves inv c site receiver args heap (inv.panicked site q heap)
  | noReceiver {values : Arguments c.params} {o : C.Obj}
      (converts : Converts inv.policy heap c.params args values)
      (wants : c.body.receiver? = some o) (absent : receiver = none) :
      Behaves inv c site receiver args heap
        ⟨.error (.nativeFailure site.text "invalid receiver: call has no receiver"), heap, []⟩
  | staleReceiver {values : Arguments c.params} {o : C.Obj} {h : Handle}
      (converts : Converts inv.policy heap c.params args values)
      (wants : c.body.receiver? = some o) (named : receiver = some h)
      (stale : heap.occupant? h = none) :
      Behaves inv c site receiver args heap
        ⟨.error (.useAfterFree h.index h.generation), heap, []⟩
  | wrongReceiver {values : Arguments c.params} {o : C.Obj} {h : Handle} {x : Occupant C}
      (converts : Converts inv.policy heap c.params args values)
      (wants : c.body.receiver? = some o) (named : receiver = some h)
      (live : heap.occupant? h = some x) (other : x.type ≠ o) :
      Behaves inv c site receiver args heap
        ⟨.error (.nativeFailure site.text
          s!"invalid receiver: {(Heap.wrongType o x).message}"), heap, []⟩
  /-- Copying the receiver for the function has panicked. -/
  | receiverPanic {values : Arguments c.params} {o : C.Obj}
      {f : C.Instance o → Arguments c.params → Outcome String c.returns.Value} {h : Handle}
      {self : C.Instance o} {q : Payload}
      (converts : Converts inv.policy heap c.params args values) (body : c.body = .copying o f)
      (named : receiver = some h) (found : heap.get o h = .ok self)
      (failed : C.clone o self = .error q) :
      Behaves inv c site receiver args heap (inv.panicked site q heap)
  | ran {values : Arguments c.params} {outcome : Outcome String c.returns.Value} {after : Heap C}
      (converts : Converts inv.policy heap c.params args values)
      (applies : c.body.Applies heap receiver values outcome after) :
      Behaves inv c site receiver args heap (inv.conclude site c.returns outcome after)

/-! ## Arguments -/

section Arguments

variable {policy : NumericPolicy} {heap : Heap C} {ps : List (Parameter C)} {args : List HostValue}

theorem Converts.length_eq {values : Arguments ps}
    (converts : Converts policy heap ps args values) : args.length = ps.length := by
  induction converts with
  | nil => rfl
  | cons _ _ ih => rw [List.length_cons, List.length_cons, ih]

namespace ConvertsUpTo

variable {i : Nat} {p q : Parameter C} {v w : HostValue} {vs : List HostValue}

theorem zero (arity : vs.length = ps.length) :
    ConvertsUpTo policy heap (p :: ps) (v :: vs) 0 p v :=
  ⟨by rw [List.length_cons, List.length_cons, arity], rfl, rfl, nofun⟩

theorem succ {a : q.type.Value} (first : q.type.fromHost policy heap w = .ok a)
    (rest : ConvertsUpTo policy heap ps vs i p v) :
    ConvertsUpTo policy heap (q :: ps) (w :: vs) (i + 1) p v := by
  refine ⟨by rw [List.length_cons, List.length_cons, rest.arity], rest.param, rest.arg, ?_⟩
  rintro (_ | j) below r u hr hu
  · cases hr
    cases hu
    exact ⟨a, first⟩
  · exact rest.earlier j (Nat.lt_of_succ_lt_succ below) r u hr hu

theorem tail (reached : ConvertsUpTo policy heap (q :: ps) (w :: vs) (i + 1) p v) :
    (∃ a, q.type.fromHost policy heap w = .ok a) ∧ ConvertsUpTo policy heap ps vs i p v := by
  obtain ⟨arity, param, arg, earlier⟩ := reached
  refine ⟨earlier 0 (Nat.succ_pos i) q w rfl rfl, Nat.succ.inj arity, param, arg, ?_⟩
  intro j below r u hr hu
  exact earlier (j + 1) (Nat.succ_lt_succ below) r u hr hu

end ConvertsUpTo

/-- Arguments as many as the parameters convert, or they do so up to one that does not. By induction
on the parameters. -/
theorem converts_cases (policy : NumericPolicy) (heap : Heap C) (arity : args.length = ps.length) :
    (∃ values, Converts policy heap ps args values) ∨
      ∃ i p v, ConvertsUpTo policy heap ps args i p v ∧
        ((∃ e, p.type.fromHost policy heap v = .error e) ∨
          ∃ q, p.type.fromHost policy heap v = .panic q) := by
  induction ps generalizing args with
  | nil =>
    rw [List.eq_nil_of_length_eq_zero arity]
    exact Or.inl ⟨(), .nil⟩
  | cons p ps ih =>
    cases args with
    | nil => cases arity
    | cons v vs =>
      have arity' : vs.length = ps.length := Nat.succ.inj arity
      cases first : p.type.fromHost policy heap v with
      | error e => exact Or.inr ⟨0, p, v, .zero arity', Or.inl ⟨e, first⟩⟩
      | panic q => exact Or.inr ⟨0, p, v, .zero arity', Or.inr ⟨q, first⟩⟩
      | ok a =>
        obtain ⟨values, rest⟩ | ⟨i, r, w, rest, failed⟩ := ih arity'
        · exact Or.inl ⟨(a, values), .cons first rest⟩
        · exact Or.inr ⟨i + 1, r, w, .succ first rest, failed⟩

end Arguments

namespace Frame

variable {f : Frame} {heap : Heap C} {ps : List (Parameter C)} {vs : List HostValue} {index : Nat}

theorem argument_eq {v : HostValue} {t : NativeType C} (given : f.args[index]? = some v) :
    f.argument heap index t = (t.fromHost f.policy heap v).mapError (.argument index) := by
  rw [argument, slot, given]

theorem head_of_drop {v : HostValue} (given : f.args.drop index = v :: vs) :
    f.args[index]? = some v ∧ f.args.drop (index + 1) = vs := by
  refine ⟨?_, ?_⟩
  · rw [← Nat.add_zero index, ← List.getElem?_drop, given]
    rfl
  · rw [← List.drop_drop, given]
    rfl

/-- Arguments that convert are extracted, one after the other. By induction on the parameters. -/
theorem arguments_of_converts {values : Arguments ps}
    (converts : Converts f.policy heap ps vs values) (given : f.args.drop index = vs) :
    f.arguments heap ps index = .ok values := by
  induction converts generalizing index with
  | nil => rfl
  | cons first _ ih =>
    obtain ⟨here, rest⟩ := head_of_drop given
    rw [arguments, argument_eq here, first, ih rest]
    rfl

/-- The first argument that does not convert decides. By induction on the parameters. -/
theorem arguments_of_upTo {i : Nat} {p : Parameter C} {v : HostValue}
    (reached : ConvertsUpTo f.policy heap ps vs i p v) (given : f.args.drop index = vs) :
    (∀ e, p.type.fromHost f.policy heap v = .error e →
        f.arguments heap ps index = .error (.argument (index + i) e)) ∧
      ∀ q, p.type.fromHost f.policy heap v = .panic q → f.arguments heap ps index = .panic q := by
  induction ps generalizing vs index i with
  | nil => cases reached.param
  | cons q ps ih =>
    cases vs with
    | nil => cases reached.arity
    | cons w vs =>
      obtain ⟨here, rest⟩ := head_of_drop given
      rw [arguments, argument_eq here]
      cases i with
      | zero =>
        cases reached.param
        cases reached.arg
        refine ⟨fun e failed => ?_, fun q failed => ?_⟩
        · rw [failed]
          rfl
        · rw [failed]
          rfl
      | succ i =>
        obtain ⟨⟨a, first⟩, later⟩ := reached.tail
        obtain ⟨error, panic⟩ := ih later rest
        have shift : index + (i + 1) = index + 1 + i := by omega
        rw [first, shift]
        refine ⟨fun e failed => ?_, fun q failed => ?_⟩
        · rw [error e failed]
          rfl
        · rw [panic q failed]
          rfl

/-- What comes out of the arguments they convert to, if there are as many as parameters. -/
theorem converts_of_arguments {values : Arguments ps} (arity : f.args.length = ps.length)
    (converted : f.arguments heap ps 0 = .ok values) : Converts f.policy heap ps f.args values := by
  obtain ⟨values', converts⟩ | ⟨i, p, v, reached, ⟨e, failed⟩ | ⟨q, failed⟩⟩ :=
    converts_cases f.policy heap arity
  · cases (arguments_of_converts converts rfl).symm.trans converted
    exact converts
  · cases ((arguments_of_upTo reached rfl).1 e failed).symm.trans converted
  · cases ((arguments_of_upTo reached rfl).2 q failed).symm.trans converted

/-! ## Receivers -/

variable {o : C.Obj} {h : Handle}

theorem instance?_of_absent (absent : f.receiver = none) :
    f.instance? heap o = .error (.invalidReceiver "call has no receiver") := by
  rw [instance?, this, absent]

theorem instance?_of_named (named : f.receiver = some h) :
    f.instance? heap o = (heap.get o h).mapError .ofReceiver := by
  rw [instance?, this, named]

end Frame

/-- A heap refuses to change an instance for the reason that it refuses to show it. -/
theorem Heap.update_of_get_error {heap : Heap C} {o : C.Obj} {change : C.Instance o → C.Instance o}
    {h : Handle} {e : ConversionError} (refused : heap.get o h = .error e) :
    heap.update o change h = .error e := by
  cases hx : heap.occupant? h with
  | none =>
    rw [get_of_stale hx] at refused
    rw [update_of_stale hx, Except.error.inj refused]
  | some x =>
    cases hv : x.as? o with
    | none =>
      rw [get_of_wrongType hx hv] at refused
      rw [update_of_wrongType hx hv, Except.error.inj refused]
    | some v => cases (get_of_live hx hv).symm.trans refused

/-- Only a stale handle is reported as one, by its own index and generation. -/
theorem Heap.stale_of_get {heap : Heap C} {o : C.Obj} {h : Handle} {index generation : Nat}
    (refused : heap.get o h = .error (.staleHandle index generation)) :
    heap.occupant? h = none ∧ h.index = index ∧ h.generation = generation := by
  cases hx : heap.occupant? h with
  | none =>
    cases (get_of_stale hx).symm.trans refused
    exact ⟨rfl, rfl, rfl⟩
  | some x =>
    cases hv : x.as? o with
    | none => cases (get_of_wrongType hx hv).symm.trans refused
    | some v => cases (get_of_live hx hv).symm.trans refused

namespace NativeType

/-- Integers that are too large for a float are no stale handles. -/
theorem widen_ne_stale {policy : NumericPolicy} {f : FloatFormat} {target : String} {n : HostInt}
    {index generation : Nat} :
    policy.widen f target n ≠ .error (.staleHandle index generation) := by
  unfold NumericPolicy.widen
  split
  · simp
  · split_ifs <;> simp

theorem narrow_ne_stale {x : Binary64} {index generation : Nat} :
    x.narrow ≠ .error (.staleHandle index generation) := by
  unfold Binary64.narrow
  dsimp only
  split_ifs <;> simp

/-- Only a stale handle fails to convert as one. By induction on the type : options convert what
they may hold. -/
theorem stale_of_fromHost {t : NativeType C} {policy : NumericPolicy} {heap : Heap C}
    {v : HostValue} {index generation : Nat}
    (failed : t.fromHost policy heap v = .error (.staleHandle index generation)) :
    ∃ h, v = .object h ∧ heap.occupant? h = none ∧ h.index = index ∧ h.generation = generation := by
  induction t with
  | int w =>
    cases v with
    | int n =>
      unfold fromHost at failed
      split at failed <;> cases failed
    | none | bool | float | str | object => cases failed
  | f64 =>
    cases v with
    | int n => exact absurd (Outcome.ofExcept_eq_error_iff.1 failed) widen_ne_stale
    | none | bool | float | str | object => cases failed
  | f32 =>
    cases v with
    | int n => exact absurd (Outcome.ofExcept_eq_error_iff.1 failed) widen_ne_stale
    | float x => exact absurd (Outcome.ofExcept_eq_error_iff.1 failed) narrow_ne_stale
    | none | bool | str | object => cases failed
  | bool | str | unit => cases v <;> cases failed
  | option t ih =>
    cases v with
    | none => cases failed
    | bool | int | float | str | object =>
      refine ih ?_
      unfold fromHost at failed
      split at failed
      · cases failed
      · cases failed
        assumption
      · cases failed
  | object o =>
    cases v with
    | object h =>
      unfold fromHost at failed
      cases found : heap.get o h with
      | error e =>
        rw [found] at failed
        cases failed
        exact ⟨h, rfl, Heap.stale_of_get found⟩
      | ok value =>
        rw [found] at failed
        cases copied : C.clone o value <;> simp [copied] at failed
    | none | bool | int | float | str => cases failed

end NativeType

/-! ## The function and its receiver -/

/-- A receiver that cannot be read cannot be changed. -/
theorem Native.run_thisMut_of_refused {f : Frame} {s : Activation C} {o : C.Obj}
    {change : C.Instance o → C.Instance o} {e : NativeError}
    (refused : f.instance? s.heap o = .error e) : (thisMut o change).run f s = (.error e, s) := by
  rw [run_thisMut]
  unfold Frame.instance? at refused
  cases named : f.this with
  | error cause =>
    rw [named] at refused
    cases refused
    rfl
  | ok h =>
    rw [named] at refused
    dsimp only at refused ⊢
    cases found : s.heap.get o h with
    | ok self =>
      rw [found] at refused
      cases refused
    | error cause =>
      rw [found] at refused
      cases refused
      rw [Heap.update_of_get_error found]

namespace Body

variable {ps : List (Parameter C)} {t : NativeType C} {body : Body C ps t} {f : Frame}
  {s : Activation C} {values : Arguments ps}

open Native

/-- What a wrapper does once it has the arguments. -/
def code : Body C ps t → Arguments ps → Native C Unit
  | free g, values => deliver t (g values)
  | reading o g, values => do
    let self ← this o
    deliver t (g self values)
  | copying o g, values => do
    let self ← this o
    let copy ← ofClone (C.clone o self)
    deliver t (g copy values)
  | changing o g, values => do
    let self ← thisMut o fun self => (g self values).1
    deliver t (g self values).2

/-- A body that applies leaves the delivery of its outcome to be done. -/
theorem run_code_of_applies {outcome : Outcome String t.Value} {after : Heap C}
    (applies : body.Applies s.heap f.receiver values outcome after) :
    (body.code values).run f s = (deliver t outcome).run f { s with heap := after } := by
  cases applies with
  | free g => rfl
  | reading g named found =>
    rw [code, run_bind, run_this, Frame.instance?_of_named named, found]
    rfl
  | copying g named found copied =>
    rw [code, run_bind, run_this, Frame.instance?_of_named named, found]
    simp only [Except.mapError, Outcome.ofExcept, resume]
    rw [copied]
    rfl
  | @changing o g h self holders mutated named live =>
    have typed : (⟨o, self, holders, mutated⟩ : Occupant C).as? o = some self :=
      Occupant.as?_eq_some_iff.2 rfl
    rw [code, run_bind, run_thisMut, Frame.this, named]
    dsimp only
    rw [Heap.update_of_live live typed]
    rfl

/-- Without its receiver the function is not applied. -/
theorem run_code_of_refused {o : C.Obj} {e : NativeError} (wants : body.receiver? = some o)
    (refused : f.instance? s.heap o = .error e) : (body.code values).run f s = (.error e, s) := by
  cases body with
  | free g => cases wants
  | reading r g =>
    cases wants
    rw [code, run_bind, run_this, refused]
    rfl
  | copying r g =>
    cases wants
    rw [code, run_bind, run_this, refused]
    rfl
  | changing r g =>
    cases wants
    rw [code, run_bind, run_thisMut_of_refused refused]
    rfl

/-- A copy of the receiver that panics is the end of the call. -/
theorem run_code_of_copy {o : C.Obj} {g : C.Instance o → Arguments ps → Outcome String t.Value}
    {h : Handle} {self : C.Instance o} {q : Payload} (named : f.receiver = some h)
    (found : s.heap.get o h = .ok self) (failed : C.clone o self = .error q) :
    ((copying o g).code values).run f s = (.panic q, s) := by
  rw [code, run_bind, run_this, Frame.instance?_of_named named, found]
  simp only [Except.mapError, Outcome.ofExcept, resume]
  rw [failed]
  rfl

end Body

/-! ## Wrappers by their parts -/

section Wrappers

open Native

/-- The code of a wrapper extracts the arguments, and then runs the body on them. -/
theorem Callable.run_code (c : Callable C) (f : Frame) (s : Activation C) :
    c.code.run f s = resume f c.body.code (f.arguments s.heap c.params 0, s) := by
  have parts : c.code = extract c.params 0 >>= c.body.code := by
    obtain ⟨params, returns, body⟩ := c
    cases body <;> rfl
  rw [parts, run_bind, run_extract]

/-- A getter delivers the copy that it makes. -/
theorem Property.getter_eq {o : C.Obj} (p : Property C o) : p.getter = p.reader.code := by
  have copied : ∀ copy, (ofClone copy >>= setReturn p.type) = deliver p.type (ofCopy copy) := by
    intro copy
    cases copy <;> rfl
  have instances :
      p.getter = this o >>= fun self => deliver p.type (ofCopy (p.type.clone (p.get self))) := by
    simp only [← copied]
    rfl
  rw [instances]
  rfl

/-- A setter leaves its return value as it was, which is nothing. -/
theorem Property.run_setter {o : C.Obj} (p : Property C o)
    (set : p.type.Value → C.Instance o → C.Instance o) (f : Frame) (heap : Heap C) :
    (p.setter set).run f { heap } = (p.writer set).code.run f { heap } := by
  have given : (p.setter set).run f { heap } =
      resume f (fun value => thisMut o (set value) >>= fun _ => pure ())
        (f.argument heap 0 p.type, { heap }) := by
    rw [setter, run_bind, run_arg]
  rw [given, Callable.run_code]
  simp only [writer, Frame.arguments]
  cases f.argument heap 0 p.type with
  | error e => rfl
  | panic q => rfl
  | ok value =>
    simp only [resume, Outcome.bind, Body.code]
    rw [run_bind, run_bind, run_thisMut]
    cases f.this with
    | error e => rfl
    | ok h =>
      dsimp only
      cases heap.update o (set value) h <;> rfl

/-- A wrapper runs as the code it was generated for, whatever it is wrapped in. -/
theorem Callable.Wraps.run {c : Callable C} {code : Native C Unit} (wraps : c.Wraps code)
    (f : Frame) (heap : Heap C) : code.run f { heap } = c.code.run f { heap } := by
  cases wraps with
  | callable => rfl
  | getter p => rw [p.getter_eq]
  | setter p set => exact p.run_setter set f heap

namespace Callable.Wraps

variable {c : Callable C} {code : Native C Unit} {policy : NumericPolicy}
  {receiver : Option Handle} {args : List HostValue} {heap : Heap C}

/-- If all arguments convert, the body runs on the values. -/
theorem run_of_converts (wraps : c.Wraps code) {values : Arguments c.params}
    (converts : Converts policy heap c.params args values) :
    code.run ⟨args, receiver, policy⟩ { heap } =
      (c.body.code values).run ⟨args, receiver, policy⟩ { heap } := by
  rw [wraps.run, c.run_code, Frame.arguments_of_converts converts rfl]
  rfl

variable {i : Nat} {p : Parameter C} {v : HostValue}

/-- The first argument that does not convert ends the call, before anything has changed. -/
theorem run_of_error (wraps : c.Wraps code) {e : ConversionError}
    (reached : ConvertsUpTo policy heap c.params args i p v)
    (failed : p.type.fromHost policy heap v = .error e) :
    code.run ⟨args, receiver, policy⟩ { heap } = (.error (.argument i e), { heap }) := by
  have first :
      Frame.arguments ⟨args, receiver, policy⟩ heap c.params 0 = .error (.argument i e) := by
    rw [← Nat.zero_add i]
    exact (Frame.arguments_of_upTo reached rfl).1 e failed
  rw [wraps.run, c.run_code, first]
  rfl

theorem run_of_panic (wraps : c.Wraps code) {q : Payload}
    (reached : ConvertsUpTo policy heap c.params args i p v)
    (failed : p.type.fromHost policy heap v = .panic q) :
    code.run ⟨args, receiver, policy⟩ { heap } = (.panic q, { heap }) := by
  have first : Frame.arguments ⟨args, receiver, policy⟩ heap c.params 0 = .panic q :=
    (Frame.arguments_of_upTo reached rfl).2 q failed
  rw [wraps.run, c.run_code, first]
  rfl

end Callable.Wraps

end Wrappers

/-! ## Invocations -/

section Invocations

variable {inv : Invoker} {c : Callable C} {code : Native C Unit} {identity : Identity}
  {site : CallSite} {receiver : Option Handle} {args : List HostValue} {heap : Heap C}

namespace CallSite

theorem paramName_eq {i : Nat} {p : Parameter C} (declared : site.params = c.paramMetas)
    (param : c.params[i]? = some p) : site.paramName i = p.name := by
  rw [paramName, declared, Callable.paramMetas, List.getElem?_map, param]
  rfl

/-- An argument that does not convert is reported with the name of its parameter. -/
theorem report_argument {i : Nat} {p : Parameter C} {e : ConversionError}
    (declared : site.params = c.paramMetas) (param : c.params[i]? = some p)
    (other : ∀ index generation, e ≠ .staleHandle index generation) :
    site.report (.argument i e) = .typeMismatch site.text p.name e.expected e.actual := by
  rw [← paramName_eq declared param]
  cases e with
  | staleHandle index generation => exact absurd rfl (other index generation)
  | _ => rfl

end CallSite

namespace Invoker

/-- An error that leaves the heap alone is reported, and leaves it alone. -/
theorem invoke_of_error {e : NativeError} (arity : args.length = site.params.length)
    (ran : code.run ⟨args, receiver, inv.policy⟩ { heap } = (.error e, { heap })) :
    inv.invoke ⟨identity, code⟩ site receiver args heap = ⟨.error (site.report e), heap, []⟩ := by
  unfold invoke call
  rw [if_pos arity, ran]
  cases inv.catchPanics <;> rfl

theorem invoke_of_panic {p : Payload} {after : Heap C} (arity : args.length = site.params.length)
    (ran : code.run ⟨args, receiver, inv.policy⟩ { heap } = (.panic p, { heap := after })) :
    inv.invoke ⟨identity, code⟩ site receiver args heap = inv.panicked site p after := by
  unfold invoke call panicked
  rw [if_pos arity, ran]
  cases inv.catchPanics <;> rfl

/-- A call that comes to deliver a value does nothing else after that. -/
theorem invoke_of_deliver {t : NativeType C} {outcome : Outcome String t.Value} {after : Heap C}
    (arity : args.length = site.params.length)
    (ran : code.run ⟨args, receiver, inv.policy⟩ { heap } =
      (Native.deliver t outcome).run ⟨args, receiver, inv.policy⟩ { heap := after }) :
    inv.invoke ⟨identity, code⟩ site receiver args heap = inv.conclude site t outcome after := by
  cases outcome with
  | panic p => exact invoke_of_panic arity ran
  | error reason =>
    unfold invoke call conclude
    rw [if_pos arity, ran]
    cases inv.catchPanics <;> rfl
  | ok v =>
    unfold invoke call conclude
    rw [if_pos arity, ran, Native.deliver, Native.run_setReturn]
    dsimp only
    cases t.toHost v after <;> cases inv.catchPanics <;> rfl

end Invoker

/-- The rules say what a call does : each of them, followed through the wrapper. -/
theorem Callable.Behaves.invoke {r : Invoker.Effect C HostValue} (wraps : c.Wraps code)
    (declared : site.params = c.paramMetas) (rule : c.Behaves inv site receiver args heap r) :
    inv.invoke ⟨identity, code⟩ site receiver args heap = r := by
  have counted : site.params.length = c.params.length := by
    rw [declared, Callable.paramMetas, List.length_map]
  -- A rule about the receiver : all arguments have been converted, and the receiver is refused.
  have refusal {values : Arguments c.params} {o : C.Obj} {e : NativeError}
      (converts : Converts inv.policy heap c.params args values)
      (wants : c.body.receiver? = some o)
      (refused : Frame.instance? ⟨args, receiver, inv.policy⟩ heap o = .error e) :
      inv.invoke ⟨identity, code⟩ site receiver args heap =
        ⟨.error (site.report e), heap, []⟩ := by
    refine Invoker.invoke_of_error (converts.length_eq.trans counted.symm) ?_
    rw [wraps.run_of_converts converts]
    exact Body.run_code_of_refused wants refused
  cases rule with
  | arity wrong =>
    rw [← counted] at wrong ⊢
    unfold Invoker.invoke
    rw [if_neg wrong]
  | staleArgument reached stale failed =>
    exact Invoker.invoke_of_error (reached.arity.trans counted.symm)
      (wraps.run_of_error reached failed)
  | wrongArgument reached failed other =>
    rw [← CallSite.report_argument declared reached.param other]
    exact Invoker.invoke_of_error (reached.arity.trans counted.symm)
      (wraps.run_of_error reached failed)
  | argumentPanic reached failed =>
    exact Invoker.invoke_of_panic (reached.arity.trans counted.symm)
      (wraps.run_of_panic reached failed)
  | noReceiver converts wants absent =>
    exact refusal converts wants (Frame.instance?_of_absent absent)
  | @staleReceiver _ o h converts wants named stale =>
    have refused : Frame.instance? ⟨args, receiver, inv.policy⟩ heap o =
        .error (.staleReceiver h.index h.generation) := by
      rw [Frame.instance?_of_named named, Heap.get_of_stale stale]
      rfl
    exact refusal converts wants refused
  | @wrongReceiver _ o h x converts wants named live other =>
    have refused : Frame.instance? ⟨args, receiver, inv.policy⟩ heap o =
        .error (.invalidReceiver (Heap.wrongType o x).message) := by
      rw [Frame.instance?_of_named named,
        Heap.get_of_wrongType live (Occupant.as?_eq_none_iff.2 other)]
      rfl
    exact refusal converts wants refused
  | receiverPanic converts body named found failed =>
    refine Invoker.invoke_of_panic (converts.length_eq.trans counted.symm) ?_
    rw [wraps.run_of_converts converts, body]
    exact Body.run_code_of_copy named found failed
  | ran converts applies =>
    refine Invoker.invoke_of_deliver (converts.length_eq.trans counted.symm) ?_
    rw [wraps.run_of_converts converts]
    exact Body.run_code_of_applies applies

/-- Where a receiver is wanted, a rule refuses it, or it is a live instance of the wanted type. -/
theorem Callable.receiver_cases {values : Arguments c.params} {o : C.Obj}
    (converts : Converts inv.policy heap c.params args values)
    (wants : c.body.receiver? = some o) :
    (∃ r, c.Behaves inv site receiver args heap r) ∨
      ∃ h self holders mutated, receiver = some h ∧
        heap.occupant? h = some ⟨o, self, holders, mutated⟩ := by
  cases named : receiver with
  | none => exact Or.inl ⟨_, .noReceiver converts wants rfl⟩
  | some h =>
    cases live : heap.occupant? h with
    | none => exact Or.inl ⟨_, .staleReceiver converts wants rfl live⟩
    | some x =>
      by_cases other : x.type = o
      · obtain ⟨type, self, holders, mutated⟩ := x
        cases other
        exact Or.inr ⟨h, self, holders, mutated, rfl, live⟩
      · exact Or.inl ⟨_, .wrongReceiver converts wants rfl live other⟩

/-- There is a rule for every call whose arguments convert. -/
theorem Callable.exists_behaves_of_converts {values : Arguments c.params}
    (converts : Converts inv.policy heap c.params args values) :
    ∃ r, c.Behaves inv site receiver args heap r := by
  obtain ⟨params, returns, body⟩ := c
  cases body with
  | free f => exact ⟨_, .ran converts (.free f)⟩
  | reading o f =>
    obtain refused | ⟨h, self, holders, mutated, named, live⟩ := receiver_cases converts rfl
    · exact refused
    · have found := Heap.get_of_live live (Occupant.as?_eq_some_iff.2 rfl)
      exact ⟨_, .ran converts (.reading f named found)⟩
  | copying o f =>
    obtain refused | ⟨h, self, holders, mutated, named, live⟩ := receiver_cases converts rfl
    · exact refused
    · have found := Heap.get_of_live live (Occupant.as?_eq_some_iff.2 rfl)
      cases copied : C.clone o self with
      | ok copy => exact ⟨_, .ran converts (.copying f named found copied)⟩
      | error q => exact ⟨_, .receiverPanic converts rfl named found copied⟩
  | changing o f =>
    obtain refused | ⟨h, self, holders, mutated, named, live⟩ := receiver_cases converts rfl
    · exact refused
    · exact ⟨_, .ran converts (.changing f named live)⟩

/-- Some rule applies to every invocation. -/
theorem Callable.exists_behaves (inv : Invoker) (c : Callable C) (site : CallSite)
    (receiver : Option Handle) (args : List HostValue) (heap : Heap C) :
    ∃ r, c.Behaves inv site receiver args heap r := by
  by_cases arity : args.length = c.params.length
  · obtain ⟨values, converts⟩ | ⟨i, p, v, reached, ⟨e, failed⟩ | ⟨q, failed⟩⟩ :=
      converts_cases inv.policy heap arity
    · exact exists_behaves_of_converts converts
    · cases e with
      | staleHandle index generation =>
        obtain ⟨h, rfl, stale, rfl, rfl⟩ := NativeType.stale_of_fromHost failed
        exact ⟨_, .staleArgument reached stale failed⟩
      | _ => exact ⟨_, .wrongArgument reached failed nofun⟩
    · exact ⟨_, .argumentPanic reached failed⟩
  · exact ⟨_, .arity arity⟩

/-- The rules say what every invocation of a wrapper does, and that it does nothing else. -/
theorem Invoker.invoke_eq_iff (inv : Invoker) (wraps : c.Wraps code) (identity : Identity)
    (declared : site.params = c.paramMetas) (receiver : Option Handle) (args : List HostValue)
    (heap : Heap C) (r : Effect C HostValue) :
    inv.invoke ⟨identity, code⟩ site receiver args heap = r ↔
      c.Behaves inv site receiver args heap r := by
  refine ⟨?_, fun rule => rule.invoke wraps declared⟩
  rintro rfl
  obtain ⟨r, rule⟩ := c.exists_behaves inv site receiver args heap
  rwa [rule.invoke wraps declared]

open Gallery in
/-- A counter is added twice to itself : the argument is the receiver as it was before. If the
second argument is stale, nothing is added. -/
theorem Invoker.invoke_eq_iff_merge :
    let merge : Callable catalog :=
      changing .counter [⟨"times", .int .i64⟩, ⟨"other", .object .counter⟩] (.int .i64)
        fun c (times, other, ()) =>
          let sum := Fixed.wrap .i64 (c.count.val + times.val * (Counter.count other).val)
          (⟨sum⟩, .ok sum)
    let inv : Invoker := ⟨.strict, true⟩
    let site := CallSite.method "Counter" "merge" merge.paramMetas
    let counter (n : Int) (mutated : Bool) : Heap catalog :=
      ⟨#[⟨0, some ⟨.counter, ⟨.wrap .i64 n⟩, 1, mutated⟩⟩], [], 1⟩
    let self : Handle := ⟨0, 0, .empty⟩
    let two : HostValue := .int (.wrap .i64 2)
    merge.Wraps merge.code ∧ site.params = merge.paramMetas ∧
      merge.Behaves inv site (some self) [two, .object self] (counter 5 false)
        ⟨.ok (.int (.wrap .i64 15)), counter 15 true, []⟩ ∧
      merge.Behaves inv site (some self) [two, .object ⟨0, 1, .empty⟩] (counter 5 false)
        ⟨.error (.useAfterFree 0 1), counter 5 false, []⟩ := by
  intro merge inv site counter self two
  have wraps : merge.Wraps merge.code := .callable merge
  exact ⟨wraps, rfl, (inv.invoke_eq_iff wraps .empty rfl _ _ _ _).1 rfl,
    (inv.invoke_eq_iff wraps .empty rfl _ _ _ _).1 rfl⟩

end Invocations

end NativeBridge
