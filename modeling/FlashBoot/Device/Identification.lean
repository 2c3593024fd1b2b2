import FlashBoot.Bus
import FlashBoot.Device.Density
import FlashBoot.Device.Family

/-!
# Identification

The identification bytes are first looked up among the candidate parts. A device that is none of
them is decoded by its manufacturer byte and family code, and a DataFlash is asked for its density
as well. Each of these steps either settles the descriptor or names why there is none.
-/

namespace FlashBoot

namespace Device

/-- How the device with these identification bytes gets its descriptor, by its family. -/
def lookupFamily (id : JedecId) : Run Initializer :=
  match Family.lookup id.manufacturer id.family with
  | .ok init => return init
  | .error cause => do
    Drive.log (match cause with
      | .unknownManufacturer manufacturer => .unsupportedManufacturer manufacturer
      | _ => .unsupportedFamily id.family)
    Run.fail (.probe cause)

/-- The geometry a DataFlash reports in its status register. -/
def probeDensity : Run Geometry := do
  let status := DataflashStatus.ofByte (← Bus.readRegister .dataflashStatus)
  match status.geometry with
  | .ok geometry => return geometry
  | .error cause => do
    Drive.log (.unsupportedDensity status.density)
    Run.fail (.probe cause)

/-- The descriptor an initializer leads to. -/
def describe (id : JedecId) : Initializer → Run Descriptor
  | .fixed fixed =>
    return .ofFamily id (.linear fixed.pages fixed.pageSize) fixed.interface
  | .statusProbe => return .ofFamily id (← probeDensity) .dataflash

/-- Builds the descriptor of a device that is no candidate part. -/
def identifyFamily (id : JedecId) : Run Descriptor := do
  let descriptor ← describe id (← lookupFamily id)
  Drive.log (.familyGeometry id.family descriptor.geometry)
  return descriptor

/-- Identifies the attached device, trying the candidate parts before the known families. -/
def identify (candidates : List Part) : Run Descriptor := do
  let id ← Bus.readId
  Drive.log (.identifier id)
  match ← Run.ofChecked (Part.find? id candidates) with
  | some part =>
    Drive.log (.detected part)
    return .ofPart id part
  | none => identifyFamily id

end Device

end FlashBoot
