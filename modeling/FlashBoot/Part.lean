import FlashBoot.Part.Capability
import FlashBoot.Part.JedecId
import FlashBoot.Word

/-!
# Parts

A `Part` is one known device: its identifier, how many identifier bytes count, and its size. A part
accepts the bytes read from a device when its significant bytes are a prefix of them
(`Part.accepts`). Only five bytes are ever read, so a part with six significant bytes accepts
nothing, as does one with none; a part that claims more than the six it can hold traps.
-/

namespace FlashBoot

/-- One known device. -/
structure Part where
  name : String
  /-- The identifier, followed by the extended identifier. -/
  id : Vector UInt8 6
  /-- How many bytes of `id` count. -/
  idLength : Nat
  sectorSize : UInt32
  sectorCount : UInt16
  pageSize : UInt16
  flags : Capabilities
  deriving DecidableEq

namespace Part

/-- A part with three identifier bytes and two extended ones. Without an extended identifier three
bytes count, and without any identifier none does. -/
def ofIds (name : String) (jedec : UInt32) (extended : UInt16) (sectorSize : UInt32)
    (sectorCount : UInt16) (flags : Capabilities) : Part where
  name
  id := #v[Word.byte jedec 2, Word.byte jedec 1, Word.byte jedec 0,
    Word.byte extended.toUInt32 1, Word.byte extended.toUInt32 0, 0]
  idLength := if jedec = 0 then 0 else if extended = 0 then 3 else 5
  sectorSize
  sectorCount
  pageSize := 256
  flags

/-- A part with three identifier bytes and three extended ones, all of which count. -/
def ofLongIds (name : String) (jedec extended : UInt32) (sectorSize : UInt32)
    (sectorCount : UInt16) (flags : Capabilities) : Part where
  name
  id := #v[Word.byte jedec 2, Word.byte jedec 1, Word.byte jedec 0,
    Word.byte extended 2, Word.byte extended 1, Word.byte extended 0]
  idLength := 6
  sectorSize
  sectorCount
  pageSize := 256
  flags

/-- Whether the bytes read from a device start with the part's significant bytes. -/
def accepts (p : Part) (id : JedecId) : Except Trap Bool :=
  if p.idLength > 6 then .error (.rangeEnd p.idLength 6)
  else .ok (0 < p.idLength && p.idLength ≤ 5
    && p.id.toList.take p.idLength == id.bytes.toList.take p.idLength)

/-- The first part of a list that accepts the identifier, in scan order. -/
def find? (id : JedecId) : List Part → Except Trap (Option Part)
  | [] => .ok none
  | p :: rest => do
    if ← p.accepts id then return some p
    find? id rest

/-- The size of the array in bytes; traps when it does not fit a word. -/
def capacity (p : Part) : Except Trap UInt32 :=
  Word.mul p.sectorSize p.sectorCount.toUInt32

end Part

end FlashBoot
