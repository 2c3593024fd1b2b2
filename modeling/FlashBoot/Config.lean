import FlashBoot.Part

/-!
# Settings

What a board can adjust about the driver.
-/

namespace FlashBoot

/-- Run time settings of the driver. -/
structure Config where
  /-- The wait between an erase command and the first status read, in microseconds. -/
  settleDelay : UInt32
  /-- How many status reads an erase may take. -/
  pollRetries : UInt32
  /-- The largest number of bytes read in one transaction; 0 counts as 1. -/
  maxTransfer : Nat
  /-- Parts of this board, tried after the built-in catalog. -/
  customParts : List Part
  deriving DecidableEq

/-- 33 milliseconds, 1000 status reads, 64 KiB, and no parts of its own. -/
def Config.standard : Config where
  settleDelay := 33000
  pollRetries := 1000
  maxTransfer := 0x10000
  customParts := []

end FlashBoot
