import NativeBridge.Keywords
import NativeBridge.Listing

/-!
# The runtime

A `Runtime` is what the host talks to: a frozen registry, the heap of its instances, and how calls are
run. Each operation resolves a binding by name, or by the identity in a handle, and invokes it. Every
failure reaches the host as a `HostError`; a panic reaches it only if panics are not contained, or if
it arises while an instance is copied on the host's request, which nothing contains.

`Operation` lists the operations as data, and `Runtime.perform` carries one out.
-/

namespace NativeBridge

/-- How calls are run. -/
structure Config where
  policy : NumericPolicy := .widening
  catchPanics : Bool := true
  deriving DecidableEq

def Config.shown (c : Config) : String :=
  Text.record "RuntimeConfig"
    [("numeric_policy", c.policy.shown), ("catch_panics", toString c.catchPanics)]

/-- A registry at work. -/
structure Runtime (C : Catalog) where
  registry : Registry C
  config : Config := {}
  heap : Heap C := .empty

namespace Runtime

variable {C : Catalog}

open Invoker (Effect)

def invoker (rt : Runtime C) : Invoker := ⟨rt.config.policy, rt.config.catchPanics⟩

/-- A step that fails without any effect. -/
def refuse {α : Type} (rt : Runtime C) (e : BindingError) : Effect C α := ⟨.error e, rt.heap, []⟩

/-- The class that a live handle says it belongs to. -/
def classFor (rt : Runtime C) (h : Handle) : Except BindingError (ClassEntry C) :=
  match rt.heap.occupant? h with
  | none => .error (.useAfterFree h.index h.generation)
  | some x =>
    match rt.registry.classOf? h.identity with
    | some e => .ok e
    | none => .error (.notFound .type (C.name x.type))

/-- Calls a free function. -/
def call (rt : Runtime C) (name : String) (args : List HostValue) : Effect C HostValue :=
  match rt.registry.function name with
  | .error e => rt.refuse e
  | .ok f => rt.invoker.invoke f.native (.function f.name f.params) none args rt.heap

/-- What a constructor returned must be an instance of its class. Anything else is released again and
reported. -/
def checkConstructed (e : ClassEntry C) (r : Effect C HostValue) : Effect C Handle :=
  match r.outcome with
  | .panic p => { r with outcome := .panic p }
  | .error cause => { r with outcome := .error (cause.inConstruction e.name) }
  | .ok (.object h) =>
    if h.identity = e.identity then { r with outcome := .ok h }
    else
      match r.heap.release h with
      | .error cause => { r with outcome := .error cause }
      | .ok (_, heap) =>
        { r with outcome := .error (wrongResult (.object h)), heap }
  | .ok v => { r with outcome := .error (wrongResult v) }
where
  wrongResult (v : HostValue) : BindingError :=
    constructionError e.name none s!"constructor returned {v.typeName} instead of an instance"

def runConstructor (rt : Runtime C) (e : ClassEntry C) (args : List HostValue) : Effect C Handle :=
  match e.constructor with
  | none => rt.refuse (constructionError e.name none "type has no constructor")
  | some c =>
    checkConstructed e
      (rt.invoker.invoke c.native (.constructor e.name c.params) none args rt.heap)

/-- Constructs an instance from positional arguments. -/
def construct (rt : Runtime C) (typeName : String) (args : List HostValue) : Effect C Handle :=
  match rt.registry.classNamed typeName with
  | .error e => rt.refuse e
  | .ok e => rt.runConstructor e args

/-- Constructs an instance from positional and keyword arguments. -/
def constructWith (rt : Runtime C) (typeName : String) (args : List HostValue)
    (keywords : List (String × HostValue)) : Effect C Handle :=
  match rt.registry.classNamed typeName with
  | .error e => rt.refuse e
  | .ok e =>
    match e.constructor with
    | none => rt.refuse (constructionError e.name none "type has no constructor")
    | some c =>
      match bindKeywords e.name c.params args keywords with
      | .error cause => rt.refuse cause
      | .ok args => rt.runConstructor e args

/-- Reads a field. The host gets a copy. -/
def getField (rt : Runtime C) (h : Handle) (name : String) : Effect C HostValue :=
  match rt.classFor h with
  | .error e => rt.refuse e
  | .ok e =>
    match e.field name with
    | .error cause => rt.refuse cause
    | .ok f => rt.invoker.invoke f.getter (.field e.name f.name []) (some h) [] rt.heap

/-- Overwrites a field. -/
def setField (rt : Runtime C) (h : Handle) (name : String) (v : HostValue) : Effect C Unit :=
  match rt.classFor h with
  | .error e => rt.refuse e
  | .ok e =>
    match e.field name with
    | .error cause => rt.refuse cause
    | .ok f =>
      match f.setter with
      | none => rt.refuse (.readOnlyField e.name f.name)
      | some setter =>
        let site := CallSite.field e.name f.name [⟨f.name, f.kind⟩]
        let r := rt.invoker.invoke setter site (some h) [v] rt.heap
        { r with outcome := r.outcome.bind fun _ => .ok () }

/-- Calls a method of an instance. -/
def callMethod (rt : Runtime C) (h : Handle) (name : String) (args : List HostValue) :
    Effect C HostValue :=
  match rt.classFor h with
  | .error e => rt.refuse e
  | .ok e =>
    match e.method name with
    | .error cause => rt.refuse cause
    | .ok m => rt.invoker.invoke m.native (.method e.name m.name m.params) (some h) args rt.heap

/-- Takes a holder away from an instance, and tells whether it was the last. -/
def release (rt : Runtime C) (h : Handle) : Effect C Bool :=
  match rt.heap.release h with
  | .error e => rt.refuse e
  | .ok (last, heap) => ⟨.ok last, heap, []⟩

/-- Adds a holder to an instance of a shared type, who gets the same handle. -/
def share (rt : Runtime C) (h : Handle) : Effect C Handle :=
  match rt.heap.share h with
  | .error e => rt.refuse e
  | .ok (_, heap) => ⟨.ok h, heap, []⟩

/-- Copies an instance into a handle of its own. -/
def copy (rt : Runtime C) (h : Handle) : Effect C Handle :=
  match rt.classFor h with
  | .error e => rt.refuse e
  | .ok e =>
    match e.copy with
    | none => rt.refuse (.sharingViolation e.name "copy")
    | some rule =>
      let (outcome, heap) := rule.apply rt.heap h
      ⟨outcome.mapError (.ofConversion e.name e.name), heap, []⟩

/-- Name of the class that a live handle says it belongs to. -/
def typeOf (rt : Runtime C) (h : Handle) : Except BindingError String :=
  (rt.classFor h).map ClassEntry.name

def state (rt : Runtime C) (h : Handle) : Lifecycle := rt.heap.state h

def holders? (rt : Runtime C) (h : Handle) : Option Nat := rt.heap.holders? h

/-- Number of live instances. -/
def live (rt : Runtime C) : Nat := rt.heap.live

end Runtime

/-- What the host can ask of a runtime. -/
inductive Operation
  | call (name : String) (args : List HostValue)
  | construct (typeName : String) (args : List HostValue)
  | constructWith (typeName : String) (args : List HostValue)
      (keywords : List (String × HostValue))
  | getField (h : Handle) (name : String)
  | setField (h : Handle) (name : String) (v : HostValue)
  | callMethod (h : Handle) (name : String) (args : List HostValue)
  | release (h : Handle)
  | share (h : Handle)
  | copy (h : Handle)
  | typeOf (h : Handle)
  | state (h : Handle)
  | holders (h : Handle)

/-- What an operation answers when it succeeds. -/
inductive Response
  | value (v : HostValue)
  | handle (h : Handle)
  | done
  | reclaimed (last : Bool)
  | typeName (name : String)
  | state (s : Lifecycle)
  | holders (n : Option Nat)
  deriving DecidableEq

/-- A step of a runtime: how it ended, the runtime after it, and the notes of native code. -/
structure Step (C : Catalog) where
  outcome : Outcome HostError Response
  runtime : Runtime C
  notes : List (Note C)

namespace Runtime

variable {C : Catalog}

/-- The step with the given effect. -/
def finish {α : Type} (rt : Runtime C) (r : Invoker.Effect C α) (answer : α → Response) : Step C where
  outcome := (r.outcome.bind fun a => .ok (answer a)).mapError HostError.ofBinding
  runtime := { rt with heap := r.heap }
  notes := r.notes

/-- A step that changes nothing. -/
def answer (rt : Runtime C) (r : Except BindingError Response) : Step C where
  outcome := (Outcome.ofExcept r).mapError HostError.ofBinding
  runtime := rt
  notes := []

/-- Carries out an operation. -/
def perform (rt : Runtime C) : Operation → Step C
  | .call name args => rt.finish (rt.call name args) .value
  | .construct typeName args => rt.finish (rt.construct typeName args) .handle
  | .constructWith typeName args keywords =>
    rt.finish (rt.constructWith typeName args keywords) .handle
  | .getField h name => rt.finish (rt.getField h name) .value
  | .setField h name v => rt.finish (rt.setField h name v) fun _ => .done
  | .callMethod h name args => rt.finish (rt.callMethod h name args) .value
  | .release h => rt.finish (rt.release h) .reclaimed
  | .share h => rt.finish (rt.share h) .handle
  | .copy h => rt.finish (rt.copy h) .handle
  | .typeOf h => rt.answer ((rt.typeOf h).map .typeName)
  | .state h => rt.answer (.ok (.state (rt.state h)))
  | .holders h => rt.answer (.ok (.holders (rt.holders? h)))

/-- The steps of a run, in order. -/
def steps (rt : Runtime C) : List Operation → List (Step C)
  | [] => []
  | op :: ops =>
    let step := rt.perform op
    step :: step.runtime.steps ops

end Runtime

end NativeBridge
