/-!
# The hash XXH64

The 64-bit hash of a sequence of bytes, with a seed. Four lanes take in blocks of 32 bytes, eight at a
time each; the lanes are merged, the rest of the input follows in words of eight and four bytes and
single bytes, and a final mix lets every input bit reach every output bit. All arithmetic is modulo
`2 ^ 64`.
-/

namespace NativeBridge.Hash.XXH64

def prime1 : UInt64 := 0x9E3779B185EBCA87
def prime2 : UInt64 := 0xC2B2AE3D27D4EB4F
def prime3 : UInt64 := 0x165667B19E3779F9
def prime4 : UInt64 := 0x85EBCA77C2B2AE63
def prime5 : UInt64 := 0x27D4EB2F165667C5

/-- Rotation to the left. -/
def rotate (x : UInt64) (n : UInt64) : UInt64 := (x <<< n) ||| (x >>> (64 - n))

/-- The number whose bytes are given, least significant first. -/
def littleEndian : List UInt8 → UInt64
  | [] => 0
  | b :: rest => b.toUInt64 ||| (littleEndian rest <<< 8)

/-- One lane takes in a word. -/
def mixLane (lane word : UInt64) : UInt64 :=
  rotate (lane + word * prime2) 31 * prime1

/-- The four lanes. -/
structure Lanes where
  a : UInt64
  b : UInt64
  c : UInt64
  d : UInt64

def Lanes.start (seed : UInt64) : Lanes :=
  ⟨seed + prime1 + prime2, seed + prime2, seed, seed - prime1⟩

/-- Every lane takes in its eight bytes of a block. -/
def Lanes.absorb (l : Lanes) (block : List UInt8) : Lanes :=
  let word (i : Nat) := littleEndian ((block.drop (8 * i)).take 8)
  ⟨mixLane l.a (word 0), mixLane l.b (word 1), mixLane l.c (word 2), mixLane l.d (word 3)⟩

def mergeLane (hash lane : UInt64) : UInt64 :=
  (hash ^^^ mixLane 0 lane) * prime1 + prime4

def Lanes.merge (l : Lanes) : UInt64 :=
  let hash := rotate l.a 1 + rotate l.b 7 + rotate l.c 12 + rotate l.d 18
  [l.a, l.b, l.c, l.d].foldl mergeLane hash

/-- The lanes after all whole blocks, and the bytes that are left. -/
def Lanes.absorbAll (l : Lanes) (bytes : List UInt8) : Lanes × List UInt8 :=
  if _h : 32 ≤ bytes.length then (l.absorb bytes).absorbAll (bytes.drop 32) else (l, bytes)
termination_by bytes.length
decreasing_by simp; omega

/-- The bytes after the last whole block: words of eight bytes, then of four, then single bytes. -/
def absorbRest (hash : UInt64) (bytes : List UInt8) : UInt64 :=
  match bytes with
  | b0 :: b1 :: b2 :: b3 :: b4 :: b5 :: b6 :: b7 :: rest =>
    let word := littleEndian [b0, b1, b2, b3, b4, b5, b6, b7]
    absorbRest (rotate (hash ^^^ mixLane 0 word) 27 * prime1 + prime4) rest
  | b0 :: b1 :: b2 :: b3 :: rest =>
    let word := littleEndian [b0, b1, b2, b3]
    absorbRest (rotate (hash ^^^ (word * prime1)) 23 * prime2 + prime3) rest
  | b :: rest => absorbRest (rotate (hash ^^^ (b.toUInt64 * prime5)) 11 * prime1) rest
  | [] => hash

/-- The final mix. -/
def avalanche (hash : UInt64) : UInt64 :=
  let hash := (hash ^^^ (hash >>> 33)) * prime2
  let hash := (hash ^^^ (hash >>> 29)) * prime3
  hash ^^^ (hash >>> 32)

end XXH64

/-- The hash of a sequence of bytes. -/
def xxh64 (bytes : List UInt8) (seed : UInt64) : UInt64 :=
  let size := UInt64.ofNat bytes.length
  let (lanes, rest) := (XXH64.Lanes.start seed).absorbAll bytes
  let hash := if bytes.length < 32 then seed + XXH64.prime5 else lanes.merge
  XXH64.avalanche (XXH64.absorbRest (hash + size) rest)

end NativeBridge.Hash
