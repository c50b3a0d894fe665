import NativeBridge.Marshal

/-!
# Native code as programs over a call frame

A wrapped native callable sees the host through its call frame only: it counts and converts
arguments, reaches its receiver, sets the return value, and may leave notes. `Request` lists what it
can ask for and `Request.Answer` what it gets back; an answer may be an error, and the code decides
whether to stop at it. `Native C α` is native code that computes an `α`: it ends, or makes a request
and goes on with the answer.

`Native.run` runs such code in a frame. All that can change on the way is the `Activation`: the heap,
the return value, and the notes. `Native.demand` is the usual way to ask: an error answer ends the
code with that error.
-/

namespace NativeBridge

/-- What a call is given: arguments, the receiver of a method or accessor, and the policy for
numbers. -/
structure Frame where
  args : List HostValue
  receiver : Option Handle
  policy : NumericPolicy

/-- Outline of a frame. -/
def Frame.shown (f : Frame) : String :=
  Text.record "CallContext"
    [("arg_count", toString f.args.length),
      ("receiver", Text.optional (f.receiver.map Handle.shown)),
      ("policy", f.policy.shown)]

/-- Something that native code writes down as it runs. -/
inductive Note (C : Catalog)
  | count (n : Nat)
  | host (v : HostValue)
  | native (t : NativeType C) (v : t.Value)
  | text (s : String)

/-- What native code can ask of its frame. -/
inductive Request (C : Catalog)
  /-- The number of arguments, without the receiver. -/
  | argCount
  /-- The outline of the frame. -/
  | outline
  /-- An argument as the host gave it. -/
  | slot (index : Nat)
  /-- An argument as a native value. -/
  | arg (index : Nat) (t : NativeType C)
  /-- The receiver. -/
  | this (o : C.Obj)
  /-- The receiver for changing. The answer is the receiver before the change. -/
  | thisMut (o : C.Obj) (change : C.Instance o → C.Instance o)
  /-- Sets the return value. An object moves into the heap. -/
  | setReturn (t : NativeType C) (v : t.Value)
  | note (n : Note C)

/-- Type of the answer to a request. -/
@[reducible] def Request.Answer {C : Catalog} : Request C → Type
  | argCount => Nat
  | outline => String
  | slot _ => Except NativeError HostValue
  | arg _ t => Except NativeError t.Value
  | this o | thisMut o _ => Except NativeError (C.Instance o)
  | setReturn _ _ => Except NativeError Unit
  | note _ => Unit

/-- Native code that computes an `α`. -/
inductive Native (C : Catalog) (α : Type)
  | finish (o : Outcome NativeError α)
  | ask (r : Request C) (k : r.Answer → Native C α)

/-- What changes while native code runs. -/
structure Activation (C : Catalog) where
  heap : Heap C
  result : HostValue := .none
  notes : List (Note C) := []

/-- The receiver of a frame. -/
def Frame.this (f : Frame) : Except NativeError Handle :=
  match f.receiver with
  | some h => .ok h
  | none => .error (.invalidReceiver "call has no receiver")

/-- An argument of a frame. -/
def Frame.slot (f : Frame) (index : Nat) : Except NativeError HostValue :=
  match f.args[index]? with
  | some v => .ok v
  | none => .error (.argumentOutOfBounds index f.args.length)

namespace Request

variable {C : Catalog}

/-- The answer to a request and the activation after it. Only converting an argument can panic: it may
copy an instance. -/
def perform (f : Frame) :
    (r : Request C) → Activation C → Except Payload r.Answer × Activation C
  | argCount, s => (.ok f.args.length, s)
  | outline, s => (.ok f.shown, s)
  | slot index, s => (.ok (f.slot index), s)
  | arg index t, s =>
    match f.slot index with
    | .error e => (.ok (.error e), s)
    | .ok v =>
      match t.fromHost f.policy s.heap v with
      | .ok a => (.ok (.ok a), s)
      | .error e => (.ok (.error (.argument index e)), s)
      | .panic p => (.error p, s)
  | this o, s =>
    match f.this with
    | .error e => (.ok (.error e), s)
    | .ok h => (.ok ((s.heap.get o h).mapError NativeError.ofReceiver), s)
  | thisMut o change, s =>
    match f.this with
    | .error e => (.ok (.error e), s)
    | .ok h =>
      match s.heap.update o change h with
      | .ok (before, heap) => (.ok (.ok before), { s with heap })
      | .error e => (.ok (.error (.ofReceiver e)), s)
  | setReturn t v, s =>
    match t.toHost v s.heap with
    | .ok (result, heap) => (.ok (.ok ()), { s with heap, result })
    | .error e => (.ok (.error (.result e)), s)
  | note n, s => (.ok (), { s with notes := s.notes ++ [n] })

end Request

namespace Native

variable {C : Catalog} {α β : Type}

/-- Runs native code in a frame. -/
def run (f : Frame) : Native C α → Activation C → Outcome NativeError α × Activation C
  | finish o, s => (o, s)
  | ask r k, s =>
    match r.perform f s with
    | (.ok a, s) => (k a).run f s
    | (.error p, s) => (.panic p, s)

def bind : Native C α → (α → Native C β) → Native C β
  | finish (.ok a), k => k a
  | finish (.error e), _ => finish (.error e)
  | finish (.panic p), _ => finish (.panic p)
  | ask r g, k => ask r fun a => (g a).bind k

instance : Monad (Native C) where
  pure a := finish (.ok a)
  bind := bind

/-- Ends the code with an error. -/
def fail (e : NativeError) : Native C α := finish (.error e)

def panic (p : Payload) : Native C α := finish (.panic p)

/-- Goes on with an answer, or ends at its error. -/
def demand : Except NativeError α → Native C α
  | .ok a => finish (.ok a)
  | .error e => fail e

def argCount : Native C Nat := ask .argCount pure

def outline : Native C String := ask .outline pure

def slot (index : Nat) : Native C HostValue := ask (.slot index) demand

def arg (index : Nat) (t : NativeType C) : Native C t.Value := ask (.arg index t) demand

def this (o : C.Obj) : Native C (C.Instance o) := ask (.this o) demand

/-- Changes the receiver and goes on with the receiver before the change. -/
def thisMut (o : C.Obj) (change : C.Instance o → C.Instance o) : Native C (C.Instance o) :=
  ask (.thisMut o change) demand

def setReturn (t : NativeType C) (v : t.Value) : Native C Unit := ask (.setReturn t v) demand

def note (n : Note C) : Native C Unit := ask (.note n) pure

end Native

/-- A wrapped native callable. -/
structure NativeFn (C : Catalog) where
  identity : Identity
  code : Native C Unit

/-- Shows the identity only; the code has no text. -/
def NativeFn.shown {C : Catalog} (f : NativeFn C) : String :=
  Text.recordWithRest "NativeFn" [("id", f.identity.shown)]

end NativeBridge
