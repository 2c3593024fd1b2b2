import FlashBoot.Board.BusFault
import FlashBoot.Board.Memory
import FlashBoot.Board.StatusScript
import FlashBoot.Opcode

/-!
# Boards

The hardware behind the bus: a flash device with an identifier, two status registers and an array,
and the faults injected into the bus. `Board.transact` answers one transaction. A transaction that
fails changes nothing but the fault counts; one that succeeds answers exactly as many bytes as were
asked for (`length_of_transact`).
-/

namespace FlashBoot

/-- The device on the bus, and what goes wrong on it. -/
structure Board where
  /-- The identification bytes; zeros follow them. -/
  id : List UInt8
  dataflashStatus : StatusScript
  norStatus : StatusScript
  memory : Memory
  /-- Whether the device decodes four address bytes instead of three. -/
  fourByte : Bool
  /-- The injected faults; the first one that strikes wins. -/
  faults : List BusFault

namespace Board

/-- The address a fast read command carries, missing bytes being zero. -/
def readAddress (b : Board) (command : List UInt8) : Nat :=
  let width := if b.fourByte then 4 else 3
  (List.range width).foldl (fun address i => address * 256 + (command.getD (i + 1) 0).toNat) 0

/-- What the device answers to a command when the bus works, and the board afterwards. -/
def respond (b : Board) (command : List UInt8) (count : Nat) : List UInt8 × Board :=
  let opcode := command.headD 0
  if opcode = Opcode.readId.byte then ((List.range count).map (b.id.getD · 0), b)
  else if opcode = Opcode.dataflashStatus.byte then
    let (bytes, rest) := b.dataflashStatus.read count
    (bytes, { b with dataflashStatus := rest })
  else if opcode = Opcode.norStatus.byte then
    let (bytes, rest) := b.norStatus.read count
    (bytes, { b with norStatus := rest })
  else if opcode = Opcode.fastRead.byte then
    (b.memory.readRange (b.readAddress command) count, b)
  else ((List.range count).map fun i => UInt8.ofNat (0xA0 + i), b)

/-- One transaction with `count` response bytes: the response or the code of the fault that struck,
and the board afterwards. -/
def transact (b : Board) (command : List UInt8) (count : Nat) :
    Except UInt8 (List UInt8) × Board :=
  let opcode := command.headD 0
  let after := { b with faults := b.faults.map (·.observe opcode) }
  match b.faults.find? (·.strikes opcode) with
  | some fault => (.error fault.code, after)
  | none =>
    let (response, after) := after.respond command count
    (.ok response, after)

@[simp] theorem length_respond (b : Board) (command : List UInt8) (count : Nat) :
    (b.respond command count).1.length = count := by
  unfold respond StatusScript.read
  dsimp only
  repeat' split
  all_goals simp

/-- A response is as long as it was asked to be. -/
theorem length_of_transact {b : Board} {command response : List UInt8} {count : Nat}
    (h : (b.transact command count).1 = .ok response) : response.length = count := by
  unfold transact at h
  dsimp only at h
  split at h
  · cases h
  · obtain rfl := Except.ok.inj h
    exact length_respond ..

end Board

end FlashBoot
