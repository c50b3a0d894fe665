/-!
# Outcomes of native code

Native code ends in one of three ways: with a value, with an error it reports, or in a panic. A panic
is not an error: it passes through every caller until something contains it (`Outcome.contain`).
-/

namespace NativeBridge

/-- What a panic carries: a message, or something else that nobody can read. -/
inductive Payload
  | message (text : String)
  | other
  deriving DecidableEq

/-- The text of a panic, for those who must report one. -/
def Payload.text : Payload → String
  | message text => text
  | other => "unknown panic payload"

/-- How a computation ends. -/
inductive Outcome (ε α : Type)
  | ok (value : α)
  | error (cause : ε)
  | panic (payload : Payload)
  deriving DecidableEq

namespace Outcome

variable {ε ε' α β : Type}

def bind : Outcome ε α → (α → Outcome ε β) → Outcome ε β
  | ok a, k => k a
  | error e, _ => error e
  | panic p, _ => panic p

instance : Monad (Outcome ε) where
  pure := ok
  bind := bind

/-- Changes the error, and nothing else. -/
def mapError (f : ε → ε') : Outcome ε α → Outcome ε' α
  | ok a => ok a
  | error e => error (f e)
  | panic p => panic p

def ofExcept : Except ε α → Outcome ε α
  | .ok a => ok a
  | .error e => error e

/-- Turns a panic into an error. -/
def contain (f : Payload → ε) : Outcome ε α → Outcome ε α
  | panic p => error (f p)
  | o => o

/-- The value, if there is one. -/
def value? : Outcome ε α → Option α
  | ok a => some a
  | _ => none

end Outcome

end NativeBridge
