import NativeBridge.Binary.Arithmetic
import NativeBridge.NativeType

/-!
# The object types of the gallery

Native types to show the library with: some may be shared, some copied, some have fields that are
themselves instances. `catalog` lists them.
-/

namespace NativeBridge.Gallery

/-- A point in the plane. -/
structure Point where
  x : Binary64
  y : Binary64
  deriving DecidableEq

structure Temperature where
  value : Binary64
  label : String
  calibration : Fixed .u32
  deriving DecidableEq

structure Counter where
  count : Fixed .i64
  deriving DecidableEq

structure Token where
  id : Fixed .i64
  deriving DecidableEq

structure Tag where
  id : Fixed .u8
  weight : Binary32
  note : Option String
  type : Bool
  secret : Fixed .i64
  deriving DecidableEq

structure Segment where
  a : Point
  b : Point
  mid : Option Point
  deriving DecidableEq

structure Wide where
  big : Fixed .u64
  small : Fixed .i8
  deriving DecidableEq

structure Marker where
  deriving DecidableEq

/-- A type that is never registered. -/
structure Ghost where
  deriving DecidableEq

/-- Names of the types. -/
inductive Exhibit
  | point | temperature | counter | token | tag | segment | wide | marker | ghost
  deriving DecidableEq

namespace Exhibit

@[reducible] def Instance : Exhibit → Type
  | point => Point
  | temperature => Temperature
  | counter => Counter
  | token => Token
  | tag => Tag
  | segment => Segment
  | wide => Wide
  | marker => Marker
  | ghost => Ghost

def name : Exhibit → String
  | point => "Point"
  | temperature => "Temperature"
  | counter => "Counter"
  | token => "Token"
  | tag => "Tag"
  | segment => "Segment"
  | wide => "Wide"
  | marker => "Marker"
  | ghost => "Ghost"

def all : List Exhibit :=
  [point, temperature, counter, token, tag, segment, wide, marker, ghost]

end Exhibit

/-- The object types of the gallery. A copy of an instance is the instance. -/
@[reducible] def catalog : Catalog where
  Obj := Exhibit
  Instance := Exhibit.Instance
  name := Exhibit.name
  sharing
    | .counter | .tag => .shared
    | _ => .exclusive
  clone _ v := .ok v

end NativeBridge.Gallery
