/-!
# Geometry

How a device lays out its array. A linear device is addressed by flat byte offsets; a
page-multiplied one has its page number shifted above a byte field of fixed width, which leaves
gaps in the address space when the page size is not a power of two.
-/

namespace FlashBoot

/-- How a flat offset becomes a device address. -/
inductive AddressingMode where
  /-- The offset is the address. -/
  | linear
  /-- The page number stands above a byte field of fixed width. -/
  | pageMultiplied
  deriving DecidableEq

/-- What is needed to address a device. -/
structure Geometry where
  mode : AddressingMode
  pages : UInt32
  pageSize : UInt32
  /-- Width in bits of the byte field below the page number, 0 on linear devices. -/
  fieldWidth : UInt32
  deriving DecidableEq

/-- Devices with more than 16384 pages take four address bytes, all others three. -/
def Geometry.fourByte (g : Geometry) : Bool :=
  g.pages > 16384

/-- The geometry of a device addressed by flat offsets. -/
def Geometry.linear (pages pageSize : UInt32) : Geometry :=
  { mode := .linear, pages, pageSize, fieldWidth := 0 }

end FlashBoot
