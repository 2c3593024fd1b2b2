import FlashBoot.Geometry
import FlashBoot.Part

/-!
# Device descriptors

Everything the driver knows about the attached device once it is identified.
-/

namespace FlashBoot

/-- The command and status register set a device speaks. -/
inductive Interface where
  /-- AT45 style: its own status register and page erase. -/
  | dataflash
  /-- AT25 and JEDEC style. -/
  | nor
  deriving DecidableEq

/-- An identified device. -/
structure Descriptor where
  manufacturer : UInt8
  family : UInt8
  geometry : Geometry
  interface : Interface
  /-- The part the device was matched against, if any. -/
  part : Option Part
  deriving DecidableEq

namespace Descriptor

/-- The size of the array in bytes; traps when it does not fit a word. -/
def capacity (d : Descriptor) : Except Trap UInt32 :=
  match d.part with
  | some part => part.capacity
  | none => Word.mul d.geometry.pages d.geometry.pageSize

/-- The device whose identification bytes matched a part: a linear SPI NOR device with a page for
each of the part's sectors. -/
def ofPart (id : JedecId) (part : Part) : Descriptor where
  manufacturer := id.manufacturer
  family := id.family
  geometry := .linear part.sectorCount.toUInt32 part.pageSize.toUInt32
  interface := .nor
  part := some part

/-- A device that is known by its family only. -/
def ofFamily (id : JedecId) (geometry : Geometry) (interface : Interface) : Descriptor where
  manufacturer := id.manufacturer
  family := id.family
  geometry
  interface
  part := none

end Descriptor

end FlashBoot
