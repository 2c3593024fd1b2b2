import FlashBoot.Word

/-!
# Image headers

The total length of an image, read from its first page. A kernel is a legacy U-Boot image or an
ARM zImage, tried in this order; a device tree is a flattened device tree blob. A parser is any
function of the kind asked for and the header bytes; `standardHeaders` is the one for these formats.
-/

namespace FlashBoot

/-- What an image holds. -/
inductive ImageKind where
  /-- An operating system kernel. -/
  | kernel
  /-- A flattened device tree blob. -/
  | deviceTree
  deriving DecidableEq

/-- Finds the total length of an image of some kind from its leading bytes, `none` when they are no
valid header. -/
abbrev HeaderParser := ImageKind → List UInt8 → Option UInt32

namespace Header

/-- The magic number of a legacy U-Boot image, big-endian at its start. -/
def uimageMagic : UInt32 := 0x27051956

/-- The magic number of an ARM zImage, little-endian at position `0x24`. -/
def zimageMagic : UInt32 := 0x016F2818

/-- The magic number of a flattened device tree, big-endian at its start. -/
def treeMagic : UInt32 := 0xD00DFEED

/-- The length of a legacy U-Boot image: the data size at position 12 and the 64 header bytes,
which must fit a word together. -/
def uimageLength? (header : List UInt8) : Option UInt32 := do
  guard ((← Word.bigEndian? header 0) = uimageMagic)
  let size ← Word.bigEndian? header 12
  guard (size.toNat + 64 < UInt32.size)
  return size + 64

/-- The length of an ARM zImage: its end less its start address, which must not come after. -/
def zimageLength? (header : List UInt8) : Option UInt32 := do
  guard ((← Word.littleEndian? header 0x24) = zimageMagic)
  let start ← Word.littleEndian? header 0x28
  let stop ← Word.littleEndian? header 0x2C
  guard (start ≤ stop)
  return stop - start

/-- The total size of a flattened device tree, which holds at least its own 40 header bytes. -/
def treeLength? (header : List UInt8) : Option UInt32 := do
  guard ((← Word.bigEndian? header 0) = treeMagic)
  let total ← Word.bigEndian? header 4
  guard (40 ≤ total)
  return total

end Header

/-- U-Boot images and zImages for kernels, flattened device trees for device trees. -/
def standardHeaders : HeaderParser
  | .kernel, header => Header.uimageLength? header <|> Header.zimageLength? header
  | .deviceTree, header => Header.treeLength? header

end FlashBoot
