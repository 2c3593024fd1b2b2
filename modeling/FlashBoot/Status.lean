/-!
# Status registers

Both device families answer a status read with one byte. `DataflashStatus` and `NorStatus` name
its bits; the remaining bits carry nothing the driver looks at.
-/

namespace FlashBoot

/-- The DataFlash status register. -/
structure DataflashStatus where
  /-- Bit 7, set when no operation is in progress. -/
  ready : Bool
  /-- Bit 6, set when the last compare found a difference. -/
  compareMismatch : Bool
  /-- Bits 5 to 2, left in place. -/
  density : UInt8
  /-- Bit 1. -/
  sectorProtection : Bool
  /-- Bit 0, set when pages are configured to a power of two. -/
  powerOfTwo : Bool
  deriving DecidableEq

/-- The fields of a DataFlash status byte. -/
def DataflashStatus.ofByte (b : UInt8) : DataflashStatus where
  ready := b &&& 0x80 != 0
  compareMismatch := b &&& 0x40 != 0
  density := b &&& 0x3C
  sectorProtection := b &&& 0x02 != 0
  powerOfTwo := b &&& 0x01 != 0

/-- The SPI NOR status register. -/
structure NorStatus where
  /-- Bit 7, set when the sector protection registers are locked. -/
  locked : Bool
  /-- Bit 5, set when the last erase or program failed. -/
  eraseProgramError : Bool
  /-- Bit 4, the level of the write protect pin. -/
  writeProtectPin : Bool
  /-- Bits 3 and 2 as a number, 0 when every sector is unprotected. -/
  protection : UInt8
  /-- Bit 1, the write enable latch. -/
  writeEnabled : Bool
  /-- Bit 0, set while an erase or program is in progress. -/
  busy : Bool
  deriving DecidableEq

/-- The fields of a SPI NOR status byte. -/
def NorStatus.ofByte (b : UInt8) : NorStatus where
  locked := b &&& 0x80 != 0
  eraseProgramError := b &&& 0x20 != 0
  writeProtectPin := b &&& 0x10 != 0
  protection := (b >>> 2) &&& 0x03
  writeEnabled := b &&& 0x02 != 0
  busy := b &&& 0x01 != 0

/-- Whether some sector is software protected. -/
def NorStatus.isProtected (s : NorStatus) : Bool :=
  s.protection != 0

end FlashBoot
