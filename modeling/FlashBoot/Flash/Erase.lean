import FlashBoot.Flash
import FlashBoot.Geometry.Address

/-!
# Erasing page 0

Erasing the start of the array destroys the boot header, so that the boot ROM falls back to its own
recovery on the next reset. A SPI NOR device is unprotected first, then its first 4 KiB block is
erased and the busy bit polled; a DataFlash has its page 0 erased and the ready bit polled. Polling
is bounded by `poll`, which asks at least once.
-/

namespace FlashBoot

/-- How a bounded poll ended. -/
inductive Poll where
  | ready
  | exhausted
  deriving DecidableEq

/-- Asks until the answer is yes, at most `n` times. -/
def pollTimes {m : Type → Type} [Monad m] (ready : m Bool) : Nat → m Poll
  | 0 => pure .exhausted
  | n + 1 => do
    if ← ready then return .ready
    pollTimes ready n

/-- Asks until the answer is yes, at most `retries` times but at least once. -/
def poll {m : Type → Type} [Monad m] (retries : Nat) (ready : m Bool) : m Poll :=
  pollTimes ready (max retries 1)

namespace Flash

/-- Sets the write enable latch. -/
def writeEnable : Run Unit :=
  Bus.write [Opcode.writeEnable.byte]

/-- Writes the SPI NOR status register; the write enable latch has to be set. -/
def writeStatus (value : UInt8) : Run Unit :=
  Bus.write [Opcode.writeStatus.byte, value]

/-- Enables writing and clears every protection bit of the SPI NOR status register. -/
def clearProtection : Run Unit := do
  writeEnable
  writeStatus 0

/-- Ends with an error if the SPI NOR device is still locked or protected. -/
def confirmUnprotected : Run Unit := do
  let status ← norStatus
  if status.locked || status.isProtected then
    Drive.log .unprotectFailed
    Run.fail .protect

/-- Clears the software protection of a SPI NOR device. Locked protection registers are unlocked
first, since the global unprotect has no effect on them otherwise. -/
def unprotect : Run Unit := do
  let status ← norStatus
  if status.isProtected then
    if status.locked then clearProtection
    clearProtection
    confirmUnprotected

/-- The command that erases the start of the array. -/
def eraseCommand : Interface → List UInt8
  | .nor => (Address.mk 0).eraseCommand .blockErase
  | .dataflash => (Address.mk 0).eraseCommand .pageErase

/-- Whether the device has finished its last erase. -/
def eraseDone : Interface → Run Bool
  | .nor => do return !(← norStatus).busy
  | .dataflash => do return (← dataflashStatus).ready

/-- Waits until an erase has finished, for at most the configured number of status reads. -/
def awaitErase (interface : Interface) (config : Config) : Run Unit := do
  Drive.emit (.delay config.settleDelay)
  match ← poll config.pollRetries.toNat (eraseDone interface) with
  | .ready => return ()
  | .exhausted => do
    Drive.log (.eraseTimedOut interface)
    Run.fail .timeout

/-- Makes a device ready to take its erase command. -/
def prepareErase : Interface → Run Unit
  | .nor => do
    unprotect
    writeEnable
  | .dataflash => return ()

/-- Erases page 0 by the procedure of the device's interface. -/
def erasePage0 (f : Flash) (config : Config) : Run Unit := do
  let interface := f.descriptor.interface
  prepareErase interface
  Run.logError (Bus.write (eraseCommand interface)) (.eraseFailed interface)
  awaitErase interface config

end Flash

end FlashBoot
