import FlashBoot.Catalog.Atmel
import FlashBoot.Catalog.Eon
import FlashBoot.Catalog.GigaDevice
import FlashBoot.Catalog.Issi
import FlashBoot.Catalog.Macronix
import FlashBoot.Catalog.Micron
import FlashBoot.Catalog.Spansion
import FlashBoot.Catalog.Sst
import FlashBoot.Catalog.StMicro
import FlashBoot.Catalog.Winbond
import FlashBoot.Catalog.Xmc

/-!
# The built-in catalog

A build carries the tables of some vendors and either has page 0 recovery or not. Tables are
scanned in the order of `Vendor.all`, each from its first part to its last. The Atmel parts share
their identifiers with the DataFlash family that is probed through its status register, so the
standard build leaves them out.
-/

namespace FlashBoot

/-- The vendors with a table. -/
inductive Vendor where
  | atmel
  | eon
  | gigaDevice
  | issi
  | macronix
  | micron
  | spansion
  | sst
  | stMicro
  | winbond
  | xmc
  deriving DecidableEq

namespace Vendor

/-- Every vendor, in scan order. -/
def all : List Vendor :=
  [.atmel, .eon, .gigaDevice, .issi, .macronix, .micron, .spansion, .sst, .stMicro, .winbond, .xmc]

/-- The table of a vendor. -/
def parts : Vendor → List Part
  | .atmel => Catalog.atmel
  | .eon => Catalog.eon
  | .gigaDevice => Catalog.gigaDevice
  | .issi => Catalog.issi
  | .macronix => Catalog.macronix
  | .micron => Catalog.micron
  | .spansion => Catalog.spansion
  | .sst => Catalog.sst
  | .stMicro => Catalog.stMicro
  | .winbond => Catalog.winbond
  | .xmc => Catalog.xmc

end Vendor

/-- What a driver was built with. -/
structure Build where
  /-- The vendors whose tables are included. -/
  includes : Vendor → Bool
  /-- Whether page 0 can be erased on request. -/
  recovery : Bool

namespace Build

/-- Every vendor but Atmel, with recovery. -/
def standard : Build where
  includes v := v ≠ .atmel
  recovery := true

/-- Every vendor, with recovery. -/
def withAtmel : Build where
  includes _ := true
  recovery := true

/-- No vendor and no recovery. -/
def bare : Build where
  includes _ := false
  recovery := false

/-- The built-in parts, in scan order. -/
def parts (b : Build) : List Part :=
  (Vendor.all.filter b.includes).flatMap Vendor.parts

/-- The parts tried on a device: the built-in ones, then those of the board. -/
def candidates (b : Build) (custom : List Part) : List Part :=
  b.parts ++ custom

end Build

end FlashBoot
