import NativeBridge.Native

/-!
# Scripted native code

A `Script` is native code given as a list of steps. Each step makes a request and notes what came of
it; the first error ends the script, as does a step that fails or panics on purpose.
-/

namespace NativeBridge

/-- One step of scripted native code. -/
inductive ScriptStep (C : Catalog)
  | argCount
  | slot (index : Nat)
  | arg (index : Nat) (t : NativeType C)
  | this (o : C.Obj)
  /-- Replaces the receiver. -/
  | thisMut (o : C.Obj) (value : C.Instance o)
  | setReturn (t : NativeType C) (v : t.Value)
  /-- Returns an argument, by way of a native type. -/
  | returnArg (index : Nat) (t : NativeType C)
  | fail (e : NativeError)
  | panic (p : Payload)
  | outline

/-- Steps in the order they are taken. -/
abbrev Script (C : Catalog) := List (ScriptStep C)

namespace Script

variable {C : Catalog}

open Native

/-- The native code of a step. -/
def stepCode : ScriptStep C → Native C Unit
  | .argCount => do note (.count (← Native.argCount))
  | .slot index => do note (.host (← Native.slot index))
  | .arg index t => do note (.native t (← Native.arg index t))
  | .this o => do note (.native (.object o) (← Native.this o))
  | .thisMut o value => do
    let _ ← Native.thisMut o fun _ => value
    note (.text "set")
  | .setReturn t v => do
    Native.setReturn t v
    note (.text "returned")
  | .returnArg index t => do
    Native.setReturn t (← Native.arg index t)
    note (.text "returned")
  | .fail e => Native.fail e
  | .panic p => Native.panic p
  | .outline => do note (.text (← Native.outline))

/-- The native code of a script. -/
def code : Script C → Native C Unit
  | [] => pure ()
  | step :: rest => do
    stepCode step
    code rest

end Script

end NativeBridge
