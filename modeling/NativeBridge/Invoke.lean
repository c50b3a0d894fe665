import NativeBridge.Descriptor

/-!
# Invoking native callables

A `CallSite` says what is being called, for the arity check and for error messages. An `Invoker` runs
a native callable for a site: the number of arguments is checked before any native code runs, panics
are contained if it is told so, and an error of the native code becomes one that names the callable
and, for an argument, the parameter.
-/

namespace NativeBridge

/-- What is being called. -/
structure CallSite where
  owner : Option String
  name : String
  params : List Param
  /-- Field accesses are written without parentheses. -/
  isField : Bool

namespace CallSite

def function (name : String) (params : List Param) : CallSite := ⟨none, name, params, false⟩

def constructor (typeName : String) (params : List Param) : CallSite :=
  ⟨none, typeName, params, false⟩

def method (typeName name : String) (params : List Param) : CallSite :=
  ⟨some typeName, name, params, false⟩

/-- An access to a field. A setter takes the field itself as its one parameter. -/
def field (typeName name : String) (params : List Param) : CallSite :=
  ⟨some typeName, name, params, true⟩

def text (s : CallSite) : String :=
  (s.owner.map (· ++ ".")).getD "" ++ s.name ++ (if s.isField then "" else "()")

/-- Name of a parameter, or its number if the site declares none there. -/
def paramName (s : CallSite) (index : Nat) : String :=
  match s.params[index]? with
  | some p => p.name
  | none => s!"#{index}"

/-- The error of a native call as the host is told of it. -/
def report (s : CallSite) : NativeError → BindingError
  | .argument index source => .ofConversion s.text (s.paramName index) source
  | .staleReceiver index generation => .useAfterFree index generation
  | e => .nativeFailure s.text e.message

end CallSite

/-- Runs native callables under a policy for numbers, and contains their panics or not. -/
structure Invoker where
  policy : NumericPolicy
  catchPanics : Bool

namespace Invoker

variable {C : Catalog}

/-- What a call leaves behind: its outcome, the heap, and the notes of the native code. -/
structure Effect (C : Catalog) (α : Type) where
  outcome : Outcome BindingError α
  heap : Heap C
  notes : List (Note C) := []

/-- Runs a callable without an arity check. The outcome is the content of the return slot. -/
def call (inv : Invoker) (native : NativeFn C) (receiver : Option Handle) (args : List HostValue)
    (heap : Heap C) : Outcome NativeError HostValue × Activation C :=
  let (outcome, s) := native.code.run ⟨args, receiver, inv.policy⟩ { heap }
  let outcome := if inv.catchPanics then outcome.contain NativeError.ofPanic else outcome
  (outcome.bind fun _ => .ok s.result, s)

/-- Invokes a callable for a site. -/
def invoke (inv : Invoker) (native : NativeFn C) (site : CallSite) (receiver : Option Handle)
    (args : List HostValue) (heap : Heap C) : Effect C HostValue :=
  if args.length = site.params.length then
    let (outcome, s) := inv.call native receiver args heap
    ⟨outcome.mapError site.report, s.heap, s.notes⟩
  else ⟨.error (.arity site.text site.params.length args.length), heap, []⟩

end Invoker

end NativeBridge
