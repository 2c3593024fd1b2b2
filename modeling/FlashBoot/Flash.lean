import FlashBoot.Catalog
import FlashBoot.Config
import FlashBoot.Device.Identification

/-!
# Identified flashes

A `Flash` is an attached device that has been identified, ready to be read and erased.
-/

namespace FlashBoot

/-- An identified device, and how much of it is read in one transaction. -/
structure Flash where
  descriptor : Descriptor
  maxTransfer : Nat
  deriving DecidableEq

namespace Flash

/-- Identifies the attached device, in a build and under a configuration. -/
def probe (build : Build) (config : Config) : Run Flash := do
  let descriptor ← Device.identify (build.candidates config.customParts)
  return { descriptor, maxTransfer := max config.maxTransfer 1 }

/-- The geometry of the device. -/
def geometry (f : Flash) : Geometry := f.descriptor.geometry

/-- Reads the DataFlash status register. -/
def dataflashStatus : Run DataflashStatus := do
  return .ofByte (← Bus.readRegister .dataflashStatus)

/-- Reads the SPI NOR status register. -/
def norStatus : Run NorStatus := do
  return .ofByte (← Bus.readRegister .norStatus)

end Flash

end FlashBoot
