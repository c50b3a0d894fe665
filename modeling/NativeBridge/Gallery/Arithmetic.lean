import NativeBridge.Integer

/-!
# Checked arithmetic

Two native functions on 64-bit integers that fail instead of wrapping around.
-/

namespace NativeBridge.Gallery

/-- Why an arithmetic function has no result. -/
inductive ArithmeticError
  | overflow (function : String)
  | negativeInput (n : Int)
  deriving DecidableEq

def ArithmeticError.message : ArithmeticError → String
  | overflow function => s!"integer overflow in {function}"
  | negativeInput n => s!"fibonacci is undefined for negative n (got {n})"

/-- The sum, unless it leaves the type. -/
def checkedAdd (function : String) (a b : Fixed .i64) : Except ArithmeticError (Fixed .i64) :=
  match Fixed.fit? .i64 (a.val + b.val) with
  | some sum => .ok sum
  | none => .error (.overflow function)

def add (a b : Fixed .i64) : Except ArithmeticError (Fixed .i64) := checkedAdd "add" a b

/-- From two neighbours of the Fibonacci sequence, the one so many places further, with one addition
for each place. -/
def fibonacciFrom (previous current : Fixed .i64) :
    Nat → Except ArithmeticError (Fixed .i64)
  | 0 => .ok current
  | n + 1 =>
    match checkedAdd "fibonacci" previous current with
    | .ok next => fibonacciFrom current next n
    | .error e => .error e

/-- The Fibonacci number of an index. -/
def fibonacci (n : Fixed .i64) : Except ArithmeticError (Fixed .i64) :=
  if n.val < 0 then .error (.negativeInput n.val)
  else if n.val = 0 then .ok (.wrap .i64 0)
  else fibonacciFrom (.wrap .i64 0) (.wrap .i64 1) (n.val - 1).toNat

end NativeBridge.Gallery
