import FlashBoot.Image.Header

/-!
# Events

What can be seen on the board while the driver runs: bus transactions, delays, samples of the
recovery pin, calls of the bus controller, and calls of the header parser. A transaction records
the bytes shifted out in both of its phases and how it ended.
-/

namespace FlashBoot

/-- One bus transaction: command bytes, then as many response bytes as were shifted out. -/
structure Transaction where
  command : List UInt8
  /-- The bytes shifted out while the response was captured, one for each of its bytes. -/
  shifted : List UInt8
  /-- The code of the fault that ended it, if any. -/
  fault : Option UInt8
  deriving DecidableEq

/-- The first command byte; a transaction without command bytes counts as opcode 0. -/
def Transaction.opcode (t : Transaction) : UInt8 :=
  t.command.headD 0

/-- The two levels the recovery pin can be asked for. -/
inductive PinLevel where
  | low
  | high
  deriving DecidableEq

/-- A call of the bus controller. -/
inductive ControllerCall where
  | init
  | enable
  | disable
  deriving DecidableEq

/-- Something that happened on the board. -/
inductive Event where
  | transaction (t : Transaction)
  | delay (microseconds : UInt32)
  /-- The recovery pin was asked whether it is at this level. -/
  | pinRead (asked : PinLevel)
  | controller (call : ControllerCall)
  /-- The header parser was called for an image of this kind. -/
  | header (kind : ImageKind) (bytes : List UInt8)
  deriving DecidableEq

end FlashBoot
