import FlashBoot.Drive

/-!
# The command channel

Every command to the device is one bus transaction. `Bus.exchange` is the general form: it refuses
an empty command, and a response without a buffer large enough to hold it, before the bus is
touched; otherwise the response overwrites the start of the buffer and the rest of it stays. The
bytes of a response that never arrived are zero.
-/

namespace FlashBoot

/-- How a transfer into a buffer ended: the buffer is there whatever the result. -/
structure Transfer where
  result : Except Failure Unit
  buffer : List UInt8

namespace Bus

/-- A command without a response. -/
def write (command : List UInt8) : Run Unit := do
  if command.isEmpty then Run.fail .command
  match ← Drive.transact command [] with
  | .ok _ => return ()
  | .error code => Run.fail (.bus code)

/-- Sends a command and captures `count` response bytes at the start of the buffer. -/
def exchange (command : List UInt8) (buffer : Option (List UInt8)) (count : Nat) :
    Drive Transfer := do
  let held := buffer.getD []
  if command.isEmpty then return ⟨.error (.error .command), held⟩
  if count = 0 then return ⟨← (write command).run, held⟩
  if held.length < count then return ⟨.error (.error .command), held⟩
  let zeros := List.replicate count 0
  match ← Drive.transact command zeros with
  | .ok response => return ⟨.ok (), response ++ held.drop count⟩
  | .error code => return ⟨.error (.error (.bus code)), zeros ++ held.drop count⟩

/-- Sends a command and captures a response that fills the whole buffer. -/
def read (command buffer : List UInt8) : Drive Transfer :=
  exchange command (some buffer) buffer.length

/-- Reads a register of one byte behind a command of one byte. -/
def readRegister (opcode : Opcode) : Run UInt8 := do
  let transfer ← read [opcode.byte] [0]
  Run.ofExcept transfer.result
  return transfer.buffer.headD 0

/-- Reads the identification bytes. -/
def readId : Run JedecId := do
  let transfer ← read [Opcode.readId.byte] (List.replicate 5 0)
  Run.ofExcept transfer.result
  return .ofBytes transfer.buffer

end Bus

end FlashBoot
