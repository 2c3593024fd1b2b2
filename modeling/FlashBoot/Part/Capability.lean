import FlashBoot.Hex

/-!
# Capabilities

What a part can do beyond plain reads, as a set of flags held in a word. Flags have fixed bit
positions in the order of `Capability.all`; bits above them are unknown and kept as they are, so a
set is its word and the operations are those of words.
-/

namespace FlashBoot

/-- One known capability. -/
inductive Capability where
  /-- 4 KiB erase works uniformly. -/
  | sect4K
  /-- No erase command needed. -/
  | noErase
  /-- Programs byte by byte. -/
  | sstWrite
  /-- Cannot do fast reads. -/
  | noFastRead
  /-- 4 KiB erase with the opcode of the PMC parts. -/
  | sect4KPmc
  | dualRead
  | quadRead
  /-- Uses the flag status register. -/
  | useFsr
  /-- Locked and unlocked through the status register. -/
  | hasLock
  /-- The status register has a top/bottom protect bit. -/
  | hasTb
  /-- In-system flash of a gate array that shares the Atmel manufacturer byte. -/
  | s3an
  /-- Dedicated opcodes with four address bytes. -/
  | fourByteOpcodes
  | noChipErase
  | skipSfdp
  /-- Uses the clear status register command. -/
  | useClsr
  /-- Locked and unlocked through block protection registers. -/
  | sst26Lock
  | octalRead
  /-- Needs a global block unlock. -/
  | unlockGlobalBlock
  /-- Only the 4 KiB erase opcode may be used. -/
  | sect4KOnly
  deriving DecidableEq

namespace Capability

/-- Every capability, lowest bit first. -/
def all : List Capability :=
  [.sect4K, .noErase, .sstWrite, .noFastRead, .sect4KPmc, .dualRead, .quadRead, .useFsr, .hasLock,
    .hasTb, .s3an, .fourByteOpcodes, .noChipErase, .skipSfdp, .useClsr, .sst26Lock, .octalRead,
    .unlockGlobalBlock, .sect4KOnly]

/-- The word with only this capability's bit. -/
def mask (c : Capability) : UInt32 :=
  1 <<< (all.idxOf c).toUInt32

/-- The written name of a capability. -/
def name : Capability → String
  | .sect4K => "SECT_4K"
  | .noErase => "NO_ERASE"
  | .sstWrite => "SST_WRITE"
  | .noFastRead => "NO_FAST_READ"
  | .sect4KPmc => "SECT_4K_PMC"
  | .dualRead => "DUAL_READ"
  | .quadRead => "QUAD_READ"
  | .useFsr => "USE_FSR"
  | .hasLock => "HAS_LOCK"
  | .hasTb => "HAS_TB"
  | .s3an => "S3AN"
  | .fourByteOpcodes => "FOUR_BYTE_OPCODES"
  | .noChipErase => "NO_CHIP_ERASE"
  | .skipSfdp => "SKIP_SFDP"
  | .useClsr => "USE_CLSR"
  | .sst26Lock => "SST26_LOCK"
  | .octalRead => "OCTAL_READ"
  | .unlockGlobalBlock => "UNLOCK_GLOBAL_BLOCK"
  | .sect4KOnly => "SECT_4K_ONLY"

/-- The capability with exactly this name. -/
def ofName? (name : String) : Option Capability :=
  all.find? (·.name = name)

end Capability

/-- A set of capabilities, unknown bits included. -/
structure Capabilities where
  bits : UInt32
  deriving DecidableEq

namespace Capabilities

/-- The set with the given members. -/
def of (members : List Capability) : Capabilities :=
  ⟨members.foldl (fun bits c => bits ||| c.mask) 0⟩

instance : EmptyCollection Capabilities := ⟨⟨0⟩⟩
instance : Singleton Capability Capabilities := ⟨fun c => ⟨c.mask⟩⟩
instance : Insert Capability Capabilities := ⟨fun c s => ⟨c.mask ||| s.bits⟩⟩
instance : Union Capabilities := ⟨fun a b => ⟨a.bits ||| b.bits⟩⟩
instance : Inter Capabilities := ⟨fun a b => ⟨a.bits &&& b.bits⟩⟩
instance : SDiff Capabilities := ⟨fun a b => ⟨a.bits &&& ~~~b.bits⟩⟩

/-- Every known capability. -/
def all : Capabilities :=
  of Capability.all

/-- The known part of a word. -/
def truncate (bits : UInt32) : Capabilities :=
  ⟨bits &&& all.bits⟩

/-- The set held by a word of known bits, `none` when a bit is unknown. -/
def ofBits? (bits : UInt32) : Option Capabilities :=
  if truncate bits = ⟨bits⟩ then some ⟨bits⟩ else none

/-- Members of exactly one of the two sets. -/
def symmDiff (a b : Capabilities) : Capabilities :=
  ⟨a.bits ^^^ b.bits⟩

/-- The known capabilities that are no members. -/
def complement (a : Capabilities) : Capabilities :=
  truncate (~~~a.bits)

/-- Whether every bit of `b` is in `a`. -/
def contains (a b : Capabilities) : Bool :=
  a ∩ b = b

/-- Whether the sets share a bit. -/
def intersects (a b : Capabilities) : Bool :=
  a ∩ b ≠ ∅

/-- Whether every known capability is a member. -/
def isAll (a : Capabilities) : Bool :=
  a.contains all

/-- The known members, lowest bit first. -/
def members (a : Capabilities) : List Capability :=
  Capability.all.filter fun c => a.bits &&& c.mask != 0

/-- The set as text: the names of its known members and the unknown rest as a hexadecimal word,
joined by bars; the empty set is the word zero. -/
def text (a : Capabilities) : String :=
  let rest := a.bits &&& ~~~all.bits
  let unknown := if rest = 0 && a.bits ≠ 0 then [] else [hex rest.toNat]
  "Capabilities(" ++ " | ".intercalate (a.members.map (·.name) ++ unknown) ++ ")"

end Capabilities

end FlashBoot
