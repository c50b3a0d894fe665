import NativeBridge.Hash.XXH64
import NativeBridge.Text.Shown

/-!
# Identities

An `Identity` is a 64-bit number that stands for an exposed type or callable. It is computed from
names, so the same declaration has the same identity wherever and whenever it is registered. Each
sort of declaration mixes the hash of its name with a marker of its own, and members fold in the
identity of their owner by a multiplication, so that a type, a function, a method and a field of one
name stay apart.
-/

namespace NativeBridge

/-- The identity of an exposed type or callable. -/
structure Identity where
  value : UInt64
  deriving DecidableEq

namespace Identity

/-- Separates an owner from its member; odd, so multiplication by it loses nothing. -/
def separator : UInt64 := 0x4bc94d6bd06053ad

def typeMarker : UInt64 := 0x2fac10b63a6cc57c
def functionMarker : UInt64 := 0x5ea77ffbcdf5f302
def methodMarker : UInt64 := 0x7d3c8b4a92e15f6d
def constructorMarker : UInt64 := 0x9a7f3d5e2b8c4601
def fieldMarker : UInt64 := 0x1a095090689d4647

/-- Tells the setter of a field from its getter. -/
def setterMarker : UInt64 := 0x9e3779b97f4a7c15

/-- The hash of a name. -/
def digest (name : String) : UInt64 := Hash.xxh64 name.toUTF8.toList 0

/-- Identity of a member whose sort has the given marker. -/
def member (marker : UInt64) (owner : Identity) (digest : UInt64) : Identity :=
  ⟨(marker ^^^ owner.value) * separator + digest⟩

/-- The identity of the type exposed under a name. -/
def ofType (name : String) : Identity := ⟨typeMarker ^^^ digest name⟩

/-- The identity of a free function. -/
def ofFunction (name : String) : Identity := ⟨functionMarker ^^^ digest name⟩

def ofMethod (owner : Identity) (name : String) : Identity := member methodMarker owner (digest name)

def ofConstructor (owner : Identity) : Identity := member constructorMarker owner 0

/-- The identity of a field's getter. -/
def ofField (owner : Identity) (name : String) : Identity := member fieldMarker owner (digest name)

def ofSetter (owner : Identity) (name : String) : Identity :=
  ⟨(ofField owner name).value ^^^ setterMarker⟩

/-- The number that no declaration is meant to have. -/
def empty : Identity := ⟨0⟩

/-- Sixteen hexadecimal digits. -/
def text (i : Identity) : String := "0x" ++ Text.hexPadded 16 i.value.toNat

def shown (i : Identity) : String := Text.alternative "TypeHash" i.text

end Identity

end NativeBridge
