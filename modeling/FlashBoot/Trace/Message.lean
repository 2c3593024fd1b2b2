import FlashBoot.Device.Descriptor
import FlashBoot.Hex
import FlashBoot.Image.Header

/-!
# Log messages

Everything the driver logs, as data: what happened, at which severity (`Message.severity`) and in
which words (`Message.text`). Theorems speak of the constructors; only the log shows the words.
-/

namespace FlashBoot

/-- How serious a message is. -/
inductive Severity where
  | trace
  | debug
  | info
  | warn
  | error
  deriving DecidableEq

/-- One log message. -/
inductive Message where
  /-- The identification bytes were read. -/
  | identifier (id : JedecId)
  /-- The device is this catalog part. -/
  | detected (part : Part)
  | unsupportedManufacturer (manufacturer : UInt8)
  | unsupportedFamily (family : UInt8)
  | unsupportedDensity (code : UInt8)
  /-- The device belongs to a known family and has this geometry. -/
  | familyGeometry (family : UInt8) (geometry : Geometry)
  /-- The last byte of a read is out of reach of the address bytes. -/
  | notAddressable (offset : UInt32)
  /-- A chunk of a read failed on the bus. -/
  | chunkFailed (offset : UInt32)
  /-- A chunk of a read arrived. -/
  | chunkRead (offset address : UInt32) (size : Nat)
  | unprotectFailed
  /-- The erase command failed on the bus. -/
  | eraseFailed (interface : Interface)
  | eraseTimedOut (interface : Interface)
  | recoveryOffered
  | recoveryRequested
  | recoveryFailed
  | recoveryDone
  | controllerInitFailed
  | probeFailed
  | invalidHeader (kind : ImageKind) (offset : UInt32)
  | imageDoesNotFit (length : UInt32)
  /-- The bulk read of an image begins. -/
  | copying (length offset : UInt32)
  /-- The bulk read of an image failed. -/
  | copyFailed
  deriving DecidableEq

/-- The name of an image kind. -/
def ImageKind.name : ImageKind → String
  | .kernel => "Kernel"
  | .deviceTree => "DeviceTree"

namespace Message

/-- The severity of a message. -/
def severity : Message → Severity
  | .chunkRead .. => .trace
  | .familyGeometry .. => .debug
  | .identifier _ | .detected _ | .recoveryOffered | .recoveryRequested | .recoveryDone
  | .copying .. => .info
  | .unsupportedManufacturer _ | .unsupportedFamily _ | .unsupportedDensity _
  | .unprotectFailed => .warn
  | .notAddressable _ | .chunkFailed _ | .eraseFailed _ | .eraseTimedOut _ | .recoveryFailed
  | .controllerInitFailed | .probeFailed | .invalidHeader .. | .imageDoesNotFit _
  | .copyFailed => .error

/-- A word in hexadecimal. -/
private def word (w : UInt32) : String := hex w.toNat

/-- A byte in hexadecimal. -/
private def octet (b : UInt8) : String := hex b.toNat

/-- A word in decimal. -/
private def number (w : UInt32) : String := toString w.toNat

/-- The wording of a message. The destination address of a copy is not known to the driver's
caller and stands as `PTR`. -/
def text : Message → String
  | .identifier id =>
    "SF: Got Manufacturer and Device ID: ["
      ++ ", ".intercalate (id.bytes.toList.map fun b => toString b.toNat) ++ "]"
  | .detected part =>
    "SF: Detected " ++ part.name ++ ", Sector size: " ++ number part.sectorSize
      ++ ", Sectors: " ++ number part.sectorCount.toUInt32
      ++ ", Page size: " ++ number part.pageSize.toUInt32
  | .unsupportedManufacturer manufacturer =>
    "SF: Unsupported Manufacturer ID " ++ octet manufacturer
  | .unsupportedFamily family => "SF: Unsupported SerialFlash family " ++ octet family
  | .unsupportedDensity code => "SF: Unsupported AT45 density " ++ octet code
  | .familyGeometry family g =>
    "SF: family " ++ octet family ++ ": " ++ number g.pages ++ " pages of "
      ++ number g.pageSize ++ " bytes, page offset " ++ number g.fieldWidth
  | .notAddressable offset => "SF: " ++ word offset ++ " is not addressable"
  | .chunkFailed offset => "SF: read error at " ++ word offset
  | .chunkRead offset address size =>
    "SF: ReadF from " ++ word offset ++ " (" ++ word address ++ "), " ++ toString size ++ " bytes"
  | .unprotectFailed => "SF: Unprotect AT25 failed"
  | .eraseFailed .nor => "SF: AT25 page 0 erase failed"
  | .eraseFailed .dataflash => "SF: AT45 page 0 erase failed"
  | .eraseTimedOut .nor => "SF: AT25 page0 erase timed out"
  | .eraseTimedOut .dataflash => "SF: AT45 page0 erase timed out"
  | .recoveryOffered => "SF: Press the recovery button to recover"
  | .recoveryRequested =>
    "SF: The recovery button has been pressed, the page 0 is erasing..."
  | .recoveryFailed => "SF: The erasing failed"
  | .recoveryDone => "SF: The erasing is done"
  | .controllerInitFailed => "SF: Fail to initialize spi"
  | .probeFailed => "SF: Fail to probe spi flash"
  | .invalidHeader kind offset => "SF: invalid " ++ kind.name ++ " header at " ++ word offset
  | .imageDoesNotFit length => "SF: image length " ++ word length ++ " does not fit"
  | .copying length offset =>
    "SF: Copy " ++ word length ++ " bytes from " ++ word offset ++ " to PTR"
  | .copyFailed => "** SF: Serial flash read error**"

end Message

end FlashBoot
