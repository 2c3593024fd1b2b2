/-!
# Array contents

The bytes of a board's array by device address. Segments lie over a uniform fill, if there is one,
and that over a background, which may be any function of the address. The array has no size: every
address reads something.
-/

namespace FlashBoot

/-- A run of bytes placed at an address. -/
structure Segment where
  start : Nat
  bytes : Array UInt8
  deriving DecidableEq

/-- The segment's byte at an address, `none` outside the segment. -/
def Segment.read? (s : Segment) (address : Nat) : Option UInt8 :=
  if s.start ≤ address then s.bytes[address - s.start]? else none

/-- What a board's array holds. -/
structure Memory where
  background : Nat → UInt8
  fill : Option UInt8
  /-- Later segments lie over earlier ones. -/
  segments : List Segment

namespace Memory

/-- The byte at an address. -/
def read (m : Memory) (address : Nat) : UInt8 :=
  m.segments.foldl (fun below s => (s.read? address).getD below)
    (m.fill.getD (m.background address))

/-- The `count` bytes from an address on. -/
def readRange (m : Memory) (address count : Nat) : List UInt8 :=
  (List.range count).map fun i => m.read (address + i)

/-- A background that tells addresses apart: the address bytes with small odd weights, and a seed
that moves them all. -/
def pattern (seed address : Nat) : UInt8 :=
  UInt8.ofNat (address * 31 + address / 256 * 17 + address / 65536 * 7 + seed)

/-- A memory without fill or segments. -/
def ofBackground (background : Nat → UInt8) : Memory where
  background
  fill := none
  segments := []

@[simp] theorem read_ofBackground (background : Nat → UInt8) (address : Nat) :
    (ofBackground background).read address = background address := rfl

@[simp] theorem length_readRange (m : Memory) (address count : Nat) :
    (m.readRange address count).length = count := by
  simp [readRange]

end Memory

end FlashBoot
