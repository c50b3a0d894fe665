import NativeBridge.Invoke
import NativeBridge.Registry

/-!
# Keyword arguments

A constructor may be called with positional arguments for its leading parameters and keywords for the
rest. `bindKeywords` puts all of them into the order of the parameters. Each keyword must name a
parameter that nothing has filled yet, and at the end every parameter must be filled.
-/

namespace NativeBridge

variable {C : Catalog}

/-- A failed construction that may name a parameter. -/
def constructionError (typeName : String) (param : Option String) (reason : String) :
    BindingError :=
  .construction typeName param none none reason

/-- Parameters with what has been bound to them. -/
abbrev Slots := List (Param × Option HostValue)

namespace Slots

/-- Positional arguments fill the leading parameters. -/
def ofPositional : List Param → List HostValue → Slots
  | [], _ => []
  | p :: ps, [] => (p, none) :: ofPositional ps []
  | p :: ps, v :: vs => (p, some v) :: ofPositional ps vs

/-- Binds one keyword to the first parameter of its name. -/
def bind (typeName keyword : String) (v : HostValue) : Slots → Except BindingError Slots
  | [] =>
    .error (constructionError typeName (some keyword) s!"unknown keyword argument '{keyword}'")
  | (p, bound) :: rest =>
    if p.name = keyword then
      match bound with
      | some _ =>
        .error
          (constructionError typeName (some keyword) s!"argument '{keyword}' given more than once")
      | none => .ok ((p, some v) :: rest)
    else do .ok ((p, bound) :: (← bind typeName keyword v rest))

/-- The bound values, or the first parameter without one. -/
def values (typeName : String) : Slots → Except BindingError (List HostValue)
  | [] => .ok []
  | (p, none) :: _ =>
    .error (constructionError typeName (some p.name) s!"missing argument '{p.name}'")
  | (_, some v) :: rest => do .ok (v :: (← values typeName rest))

end Slots

/-- All arguments in the order of the parameters. -/
def bindKeywords (typeName : String) (params : List Param) (args : List HostValue)
    (keywords : List (String × HostValue)) : Except BindingError (List HostValue) :=
  if params.length < args.length then
    .error (.arity (CallSite.constructor typeName params).text params.length
      (args.length + keywords.length))
  else do
    let slots ← keywords.foldlM (fun (s : Slots) k => s.bind typeName k.1 k.2)
      (Slots.ofPositional params args)
    slots.values typeName

end NativeBridge
