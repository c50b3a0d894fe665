import NativeBridge.Error.Conversion
import NativeBridge.Outcome

/-!
# Errors inside a native call

What a wrapped native callable can report: a request to its call frame that failed, a contained
panic, or a failure of its own.
-/

namespace NativeBridge

/-- Why a native call failed. -/
inductive NativeError
  /-- An argument did not convert. -/
  | argument (index : Nat) (source : ConversionError)
  | argumentOutOfBounds (index count : Nat)
  /-- The result could not be handed to the host. -/
  | result (source : ConversionError)
  /-- There is no receiver, or it is of another type. -/
  | invalidReceiver (reason : String)
  /-- The receiver has been reclaimed. -/
  | staleReceiver (index generation : Nat)
  | panicked (text : String)
  /-- The native code itself reports a failure. -/
  | failed (text : String)
  deriving DecidableEq

namespace NativeError

def message : NativeError → String
  | argument index source => s!"argument {index}: {source.message}"
  | argumentOutOfBounds index count =>
    s!"argument index {index} out of bounds (call has {count} arguments)"
  | result source => s!"return value: {source.message}"
  | invalidReceiver reason => s!"invalid receiver: {reason}"
  | staleReceiver index generation => ConversionError.reclaimed index generation
  | panicked text => s!"native function panicked: {text}"
  | failed text => text

/-- The conversion behind the error, if there is one. -/
def source : NativeError → Option ConversionError
  | argument _ source | result source => some source
  | _ => none

/-- The error that stands for a contained panic. -/
def ofPanic (p : Payload) : NativeError := panicked p.text

/-- The error of a method or accessor that could not reach its receiver. -/
def ofReceiver : ConversionError → NativeError
  | .staleHandle index generation => staleReceiver index generation
  | e => invalidReceiver e.message

end NativeError

end NativeBridge
