import FlashBoot.Failure
import FlashBoot.Geometry
import FlashBoot.Status

/-!
# DataFlash densities

A DataFlash tells its size by the density code of its status register. `DataflashStatus.geometry`
builds the geometry: the table's own one, or the linear one with pages rounded down to a power of
two when the device is configured so.
-/

namespace FlashBoot

/-- The geometry behind one density code. -/
structure Density where
  /-- Status register bits 5 to 2, left in place. -/
  code : UInt8
  name : String
  pages : UInt32
  /-- The page size when it is not configured to a power of two. -/
  pageSize : UInt32
  /-- Width in bits of the byte field below the page number. -/
  fieldWidth : UInt32
  deriving DecidableEq

/-- Every known density. -/
def Density.table : List Density := [
  ⟨0x0C, "at45db011d", 512, 264, 9⟩,
  ⟨0x14, "at45db021d", 1024, 264, 9⟩,
  ⟨0x1C, "at45db041d", 2048, 264, 9⟩,
  ⟨0x24, "at45db081d", 4096, 264, 9⟩,
  ⟨0x2C, "at45db161d", 4096, 528, 10⟩,
  ⟨0x34, "at45db321d", 8192, 528, 10⟩,
  ⟨0x3C, "at45db642d", 8192, 1056, 11⟩]

/-- The geometry of a density, with pages as sold or rounded down to a power of two. -/
def Density.geometry (d : Density) (powerOfTwo : Bool) : Geometry :=
  if powerOfTwo then .linear d.pages (1 <<< (d.fieldWidth - 1))
  else
    { mode := .pageMultiplied, pages := d.pages, pageSize := d.pageSize
      fieldWidth := d.fieldWidth }

/-- The geometry a status register describes. -/
def DataflashStatus.geometry (s : DataflashStatus) : Except ProbeFailure Geometry :=
  match Density.table.find? (·.code = s.density) with
  | some d => .ok (d.geometry s.powerOfTwo)
  | none => .error (.unknownDensity s.density)

end FlashBoot
