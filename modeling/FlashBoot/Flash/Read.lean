import FlashBoot.Flash
import FlashBoot.Geometry.Address

/-!
# Reading

A read is refused before anything is sent when its last byte lies above the 32-bit offsets or out
of reach of the address bytes. Otherwise it is split into chunks of at most `maxTransfer` bytes
(`chunkSizes`), each of which is addressed on its own. `Flash.readChecked` has the range checked
against the array first, and `Flash.readWithin` does so with the check of the storage library.
-/

namespace FlashBoot

/-- The chunks of a read: as many full ones as there are, and what is left. -/
def chunkSizes (count limit : Nat) : List Nat :=
  List.replicate (count / limit) limit ++ if count % limit = 0 then [] else [count % limit]

namespace Flash

/-- Reads one chunk into its part of the buffer. -/
def readChunk (f : Flash) (offset : UInt32) (chunk : List UInt8) : Drive Transfer :=
  match Address.ofOffset f.geometry offset with
  | .error trap => return ⟨.error (.trap trap), chunk⟩
  | .ok address =>
    match address.readCommand? f.geometry with
    | none => return ⟨.error (.error .outOfBounds), chunk⟩
    | some command => do
      let transfer ← Bus.read command chunk
      Drive.log (match transfer.result with
        | .ok _ => .chunkRead offset address.value chunk.length
        | .error _ => .chunkFailed offset)
      return transfer

/-- Reads chunks of the given sizes into the front of a buffer, until one of them fails. -/
def readChunks (f : Flash) : List Nat → UInt32 → List UInt8 → Drive Transfer
  | [], _, buffer => return ⟨.ok (), buffer⟩
  | size :: sizes, offset, buffer => do
    let first ← f.readChunk offset (buffer.take size)
    match first.result with
    | .error failure => return ⟨.error failure, first.buffer ++ buffer.drop size⟩
    | .ok _ =>
      (fun rest => ⟨rest.result, first.buffer ++ rest.buffer⟩) <$>
        f.readChunks sizes (offset + UInt32.ofNat size) (buffer.drop size)

/-- Fills the buffer from an offset on. -/
def read (f : Flash) (offset : UInt32) (buffer : List UInt8) : Drive Transfer := do
  if buffer.isEmpty then return ⟨.ok (), buffer⟩
  if UInt32.size < offset.toNat + buffer.length then return ⟨.error (.error .outOfBounds), buffer⟩
  let last := offset + UInt32.ofNat (buffer.length - 1)
  match Address.ofOffset f.geometry last with
  | .error trap => return ⟨.error (.trap trap), buffer⟩
  | .ok address =>
    if address.fits f.geometry then
      f.readChunks (chunkSizes buffer.length f.maxTransfer) offset buffer
    else
      Drive.log (.notAddressable last)
      return ⟨.error (.error .outOfBounds), buffer⟩

end Flash

/-! ## Reads that are checked -/

/-- The granularity of reads in bytes. -/
def readSize : Nat := 1

/-- A check of a range, by the read granularity, the capacity, the offset and the length. -/
abbrev RangeCheck := Nat → Nat → Nat → Nat → Except ErrorKind Unit

/-- The check of a slice of an array. -/
def checkSlice : RangeCheck := fun size capacity offset length =>
  if capacity < length ∨ capacity - length < offset then .error .outOfBounds
  else if offset % size ≠ 0 ∨ length % size ≠ 0 then .error .notAligned
  else .ok ()

namespace Flash

/-- Fills the buffer from an offset on, if the check lets the range pass. -/
def readChecked (f : Flash) (check : RangeCheck) (offset : UInt32) (buffer : List UInt8) :
    Drive Transfer :=
  match f.descriptor.capacity with
  | .error trap => return ⟨.error (.trap trap), buffer⟩
  | .ok capacity =>
    match check readSize capacity.toNat offset.toNat buffer.length with
    | .error kind => return ⟨.error (.error kind.toError), buffer⟩
    | .ok _ => f.read offset buffer

/-- Fills the buffer from an offset on, if it is a slice of the array. -/
def readWithin (f : Flash) (offset : UInt32) (buffer : List UInt8) : Drive Transfer :=
  f.readChecked checkSlice offset buffer

end Flash

end FlashBoot
