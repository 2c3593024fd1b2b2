import FlashBoot.Board

/-!
# Board setups

A setup changes some properties of a board and leaves the others as they are. Segments and faults
are replaced as a whole, a new status script starts from its beginning, and a new fault list starts
counting anew.
-/

namespace FlashBoot

/-- The properties to change; `none` keeps a property. -/
structure Setup where
  id : Option (List UInt8)
  dataflashStatus : Option (Array UInt8)
  norStatus : Option (Array UInt8)
  fill : Option UInt8
  seed : Option Nat
  segments : Option (List Segment)
  fourByte : Option Bool
  faults : Option (List BusFault)

namespace Board

/-- A board with no identifier, idle-high status registers and the unseeded pattern as its array. -/
def blank : Board where
  id := []
  dataflashStatus := .ofBytes #[]
  norStatus := .ofBytes #[]
  memory := .ofBackground (Memory.pattern 0)
  fourByte := false
  faults := []

/-- The board after a setup. -/
def configure (b : Board) (s : Setup) : Board where
  id := s.id.getD b.id
  dataflashStatus := (s.dataflashStatus.map .ofBytes).getD b.dataflashStatus
  norStatus := (s.norStatus.map .ofBytes).getD b.norStatus
  memory :=
    { background := (s.seed.map Memory.pattern).getD b.memory.background
      fill := s.fill <|> b.memory.fill
      segments := s.segments.getD b.memory.segments }
  fourByte := s.fourByte.getD b.fourByte
  faults := s.faults.getD b.faults

end Board

end FlashBoot
