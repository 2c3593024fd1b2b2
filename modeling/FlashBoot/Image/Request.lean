import FlashBoot.Flash.Read

/-!
# Image requests

A request names an image in the array and the buffer it is copied to. An image whose length is not
given has its first page read into the buffer, and the header parser tells the length. The copy
itself reads the whole image, header included. A request learns its length only when the image has
been copied completely.
-/

namespace FlashBoot

/-- An image to copy from the array into memory. -/
structure Request where
  kind : ImageKind
  /-- The offset of the image in the array. -/
  offset : UInt32
  /-- Where the image goes; its length is the room there is. -/
  destination : List UInt8
  /-- The length of the image, found from its header when it is not given. -/
  length : Option UInt32
  deriving DecidableEq

/-- How loading a request ended: its length, or why there is none, and the request afterwards. -/
structure Delivery where
  result : Except Failure UInt32
  request : Request

namespace Flash

/-- Asks the parser for the length of an image with this header. -/
def parseHeader (headers : HeaderParser) (kind : ImageKind) (header : List UInt8) :
    Drive (Option UInt32) := do
  Drive.emit (.header kind header)
  return headers kind header

/-- Reads the first page of an image into the start of its destination and finds the length. -/
def discoverLength (f : Flash) (headers : HeaderParser) (r : Request) : Drive Delivery := do
  let page := f.geometry.pageSize.toNat
  if r.destination.length < page then return ⟨.error (.error .length), r⟩
  let transfer ← f.read r.offset (r.destination.take page)
  let read := { r with destination := transfer.buffer ++ r.destination.drop page }
  match transfer.result with
  | .error failure => return ⟨.error failure, read⟩
  | .ok _ =>
    match ← parseHeader headers r.kind transfer.buffer with
    | some length => return ⟨.ok length, read⟩
    | none =>
      Drive.log (.invalidHeader r.kind r.offset)
      return ⟨.error (.error .length), read⟩

/-- Copies an image of known length into the start of its destination. -/
def copyImage (f : Flash) (r : Request) (length : UInt32) : Drive Delivery := do
  let count := length.toNat
  if count = 0 || r.destination.length < count then
    Drive.log (.imageDoesNotFit length)
    return ⟨.error (.error .length), r⟩
  Drive.log (.copying length r.offset)
  let transfer ← f.read r.offset (r.destination.take count)
  let read := { r with destination := transfer.buffer ++ r.destination.drop count }
  match transfer.result with
  | .ok _ => return ⟨.ok length, { read with length := some length }⟩
  | .error failure =>
    if !failure.isTrap then Drive.log .copyFailed
    return ⟨.error failure, read⟩

/-- Loads an image, finding its length first if it is not given. -/
def loadImage (f : Flash) (headers : HeaderParser) (r : Request) : Drive Delivery := do
  match r.length with
  | some length => f.copyImage r length
  | none =>
    let found ← f.discoverLength headers r
    match found.result with
    | .ok length => f.copyImage found.request length
    | .error failure => return ⟨.error failure, found.request⟩

end Flash

end FlashBoot
