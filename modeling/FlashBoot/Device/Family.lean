import FlashBoot.Device.Descriptor
import FlashBoot.Failure

/-!
# Known families

A device that is no catalog part is known by its manufacturer byte and family code. Each known
pair names one way to build the descriptor: a fixed geometry, or the DataFlash status register.
`Family.lookup` tells an unknown family of a known manufacturer from an unknown manufacturer.
-/

namespace FlashBoot

/-- The geometry of a family whose devices are not asked any further. -/
structure FixedGeometry where
  pages : UInt32
  pageSize : UInt32
  interface : Interface
  deriving DecidableEq

/-- How a family gets its descriptor. -/
inductive Initializer where
  | fixed (geometry : FixedGeometry)
  /-- The geometry is read back from the DataFlash status register. -/
  | statusProbe
  deriving DecidableEq

/-- A manufacturer and family code with their initializer. -/
structure Family where
  manufacturer : UInt8
  code : UInt8
  initializer : Initializer
  deriving DecidableEq

namespace Family

/-- 16384 pages of 256 bytes. -/
def fourMebibyte : FixedGeometry := ⟨16384, 256, .nor⟩

/-- 346 pages of 256 bytes. -/
def shortArray : FixedGeometry := ⟨346, 256, .nor⟩

/-- Every known family: AT26F, AT25DF and AT26DF, AT45, M25P, N25Q, W25Q128JV. -/
def table : List Family := [
  ⟨0x1F, 0x00, .fixed fourMebibyte⟩,
  ⟨0x1F, 0x40, .fixed fourMebibyte⟩,
  ⟨0x1F, 0x20, .statusProbe⟩,
  ⟨0x20, 0x20, .fixed fourMebibyte⟩,
  ⟨0x20, 0xA0, .fixed fourMebibyte⟩,
  ⟨0xEF, 0x40, .fixed shortArray⟩]

/-- The initializer of a manufacturer and family code. -/
def lookup (manufacturer code : UInt8) : Except ProbeFailure Initializer :=
  match table.find? fun f => f.manufacturer = manufacturer ∧ f.code = code with
  | some f => .ok f.initializer
  | none =>
    if table.any (·.manufacturer = manufacturer) then .error (.unknownFamily manufacturer code)
    else .error (.unknownManufacturer manufacturer)

end Family

end FlashBoot
