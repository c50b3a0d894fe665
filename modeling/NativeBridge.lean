import NativeBridge.Expansion.DataType
import NativeBridge.Expansion.Function
import NativeBridge.Gallery.Kitchen
import NativeBridge.Runtime
import NativeBridge.Script
import NativeBridge.Proofs.Heap.Evolution
import NativeBridge.Proofs.Heap.Store
import NativeBridge.Proofs.Native.Conduct
import NativeBridge.Proofs.Runtime.Dispatch
import NativeBridge.Proofs.Runtime.StaleHandles
import NativeBridge.Proofs.Native.Run
import NativeBridge.Proofs.Wrapper.Failure
import NativeBridge.Proofs.Wrapper.Generated
import NativeBridge.Proofs.Runtime.Failure
import NativeBridge.Proofs.Integer
import NativeBridge.Proofs.Gallery.Arithmetic
import NativeBridge.Proofs.Marshal.RoundTrip
import NativeBridge.Proofs.Native.Orphans
import NativeBridge.Proofs.Runtime.Census
import NativeBridge.Proofs.Wrapper.Invocation
import NativeBridge.Proofs.Runtime.Holders
import NativeBridge.Proofs.Wrapper.Signatures
import NativeBridge.Proofs.Registry.Validity
import NativeBridge.Proofs.Registry.Contents
import NativeBridge.Proofs.Native.Policy
import NativeBridge.Proofs.Runtime.Policy
import NativeBridge.Proofs.Runtime.ErrorKinds
import NativeBridge.Proofs.Runtime.Keywords
import NativeBridge.Proofs.Runtime.Panics
import NativeBridge.Proofs.Binary.Format
import NativeBridge.Proofs.Binary.Value
import NativeBridge.Proofs.Binary.Rounding
import NativeBridge.Proofs.Binary.Conversion
import NativeBridge.Proofs.Marshal.Floats
import NativeBridge.Proofs.Heap.Overwriting
import NativeBridge.Proofs.Marshal.ReadBack
import NativeBridge.Proofs.Wrapper.Records
import NativeBridge.Proofs.Native.Overwriting
import NativeBridge.Proofs.Runtime.Fields
import NativeBridge.Proofs.Runtime.Access
import NativeBridge.Proofs.Runtime.Commutation
import NativeBridge.Proofs.Runtime.Typing
import NativeBridge.Proofs.Runtime.Lifecycle
import NativeBridge.Proofs.Runtime.Independence
import NativeBridge.Proofs.Registry.Listing
import NativeBridge.Proofs.Runtime.Writability
import NativeBridge.Proofs.Runtime.Naming
import NativeBridge.Proofs.Runtime.Construction
import NativeBridge.Proofs.Source.Literal
import NativeBridge.Proofs.Expansion.Options
import NativeBridge.Proofs.Expansion.Signature
import NativeBridge.Proofs.Expansion.Reading
import NativeBridge.Proofs.Expansion.Methods
import NativeBridge.Proofs.Expansion.Restrictions
import NativeBridge.Proofs.Expansion.DataType
import NativeBridge.Proofs.Source.Substitution
import NativeBridge.Proofs.Expansion.Wrappers
import NativeBridge.Proofs.Heap.Balance
import NativeBridge.Proofs.Heap.Turnover
import NativeBridge.Proofs.Identity
import NativeBridge.Proofs.Source.Flattening
