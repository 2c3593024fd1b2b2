/-!
# Bus faults

A fault makes some transactions of one opcode fail: it lets the first `skipped` of them pass and
ends the next ones with its code. Every fault counts the transactions of its opcode since it was
injected, whether they fail or not.
-/

namespace FlashBoot

/-- A fault on the transactions of one opcode. -/
structure BusFault where
  opcode : UInt8
  /-- How many transactions pass before the first failure. -/
  skipped : Nat
  /-- How many fail then; all later ones when there is no count. -/
  count : Option Nat
  code : UInt8
  /-- How many transactions of the opcode have been seen. -/
  seen : Nat
  deriving DecidableEq

namespace BusFault

/-- Whether the next transaction with this opcode fails. -/
def strikes (f : BusFault) (opcode : UInt8) : Bool :=
  f.opcode = opcode && f.skipped ≤ f.seen && f.count.all (f.seen < f.skipped + ·)

/-- The fault after one more transaction with this opcode. -/
def observe (f : BusFault) (opcode : UInt8) : BusFault :=
  if f.opcode = opcode then { f with seen := f.seen + 1 } else f

end BusFault

end FlashBoot
