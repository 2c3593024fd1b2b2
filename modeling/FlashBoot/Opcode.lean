/-!
# Opcodes

The first byte of every command, as the SPI NOR and DataFlash parts understand it.
-/

namespace FlashBoot

/-- The commands the driver sends. -/
inductive Opcode where
  /-- Manufacturer and device identification. -/
  | readId
  /-- Continuous array read. -/
  | fastRead
  /-- DataFlash status register read. -/
  | dataflashStatus
  /-- DataFlash page erase. -/
  | pageErase
  /-- SPI NOR status register read. -/
  | norStatus
  /-- Set the write enable latch. -/
  | writeEnable
  /-- SPI NOR status register write. -/
  | writeStatus
  /-- SPI NOR 4 KiB block erase. -/
  | blockErase
  deriving DecidableEq

/-- The byte on the bus. -/
def Opcode.byte : Opcode → UInt8
  | .readId => 0x9F
  | .fastRead => 0x0B
  | .dataflashStatus => 0xD7
  | .pageErase => 0x81
  | .norStatus => 0x05
  | .writeEnable => 0x06
  | .writeStatus => 0x01
  | .blockErase => 0x20

end FlashBoot
