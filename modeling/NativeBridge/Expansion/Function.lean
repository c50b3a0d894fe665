import NativeBridge.Expansion.Options
import NativeBridge.Expansion.Signature

/-!
# Exposed functions

A free function is exposed by a function beside it that describes it: its name for the host, its
parameters, its result and its wrapper. `ExposedFunction.ofItem` tells what is exposed or why nothing
can be, and `ExposedFunction.tokens` is the code.
-/

namespace NativeBridge.Expansion

open Source Trees

/-- What is known of an exposed function. -/
structure ExposedFunction where
  item : FnItem
  hostName : String
  params : List ExposedParam
  shape : ResultShape

namespace ExposedFunction

/-- What is exposed of a function. It is neither async nor generic, and has no receiver. -/
def ofItem (options : Options) (f : FnItem) : Except ExpansionError ExposedFunction :=
  let s := f.signature
  if s.isAsync then .error .asyncFunction
  else if s.isGeneric then .error .genericFunction
  else if s.receiver?.isSome then .error .receiverOutsideImpl
  else do
    let params ← ExposedParam.ofInputs none s.inputs
    pure ⟨f, options.name.getD (plainName s.name), params, .ofOutput s.output⟩

/-- The function that describes an exposed function. -/
def descriptorName (name : String) : String := "__hostbind_fn_" ++ plainName name

/-- The description. -/
def description (f : ExposedFunction) : Trees :=
  library "FunctionMeta" ++ braces
    (code "name :" ++ quoted f.hostName
      ++ code ", params :" ++ vector (f.params.map paramMeta)
      ++ code ", returns :" ++ f.shape.kind
      ++ code ", native :"
      ++ nativeFn (library "TypeHash :: from_function" ++ parens (quoted f.hostName)) "__call"
      ++ code ",")

/-- The function as it is written, and the one that describes it. -/
def tokens (f : ExposedFunction) : Trees :=
  let name := f.item.signature.name
  let call := ident name ++ parens (callArguments f.params)
  f.item.tokens ++ code "#" ++ brackets (code "doc" ++ parens (ident "hidden"))
    ++ f.item.visibility ++ code "fn" ++ ident (descriptorName name) ++ parens [] ++ code "->"
    ++ library "FunctionMeta" ++ braces (wrapper f.params f.shape call ++ f.description)

end ExposedFunction

/-- The code for a function with helper arguments. -/
def expandFunction (options : Options) (f : FnItem) : Except ExpansionError Trees :=
  ExposedFunction.tokens <$> ExposedFunction.ofItem options f

end NativeBridge.Expansion
