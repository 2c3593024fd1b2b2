import FlashBoot.Trap

/-!
# Failures

Two things can end an operation early: the driver reports an `Error` with its cause, or the machine
stops in a `Trap`. `Failure` keeps them apart, since an error is logged and cleaned up after while
a trap ends everything at once.

`Error.kind` is the coarse view generic flash users have of an error, and `ErrorKind.toError` the
error such a kind stands for; out of bounds and not aligned survive the round trip.
-/

namespace FlashBoot

/-- Why the attached device could not be identified. -/
inductive ProbeFailure where
  /-- The bus controller refused to initialise. -/
  | busInit
  /-- Neither a catalog part nor a known family has this manufacturer byte. -/
  | unknownManufacturer (manufacturer : UInt8)
  /-- The manufacturer is known, the family code is not. -/
  | unknownFamily (manufacturer family : UInt8)
  /-- The DataFlash status register shows a density code without a geometry. -/
  | unknownDensity (code : UInt8)
  deriving DecidableEq

/-- Everything the driver reports. -/
inductive Error where
  /-- A bus transaction failed with this code. -/
  | bus (code : UInt8)
  /-- A request the command channel cannot carry out. -/
  | command
  /-- The device could not be identified. -/
  | probe (cause : ProbeFailure)
  /-- Status polling never saw the device ready. -/
  | timeout
  /-- Write protection could not be cleared. -/
  | protect
  /-- An image header is invalid, or the image does not fit its destination. -/
  | length
  /-- An address outside the array, or out of reach of the address bytes. -/
  | outOfBounds
  /-- An address off the read granularity. -/
  | notAligned
  deriving DecidableEq

/-- What ends an operation early. -/
inductive Failure where
  | error (cause : Error)
  | trap (cause : Trap)
  deriving DecidableEq

/-- Whether the machine itself stopped. -/
def Failure.isTrap : Failure → Bool
  | .trap _ => true
  | .error _ => false

/-- The wording of a probe failure; bytes are written in decimal. -/
def ProbeFailure.message : ProbeFailure → String
  | .busInit => "BusInit"
  | .unknownManufacturer manufacturer =>
    "UnknownManufacturer(" ++ toString manufacturer.toNat ++ ")"
  | .unknownFamily manufacturer family =>
    "UnknownFamily \x7b manufacturer: " ++ toString manufacturer.toNat
      ++ ", family: " ++ toString family.toNat ++ " \x7d"
  | .unknownDensity code => "UnknownDensity(" ++ toString code.toNat ++ ")"

/-- The wording of an error. -/
def Error.message : Error → String
  | .bus code => "Spi(SimError(" ++ toString code.toNat ++ "))"
  | .command => "Command"
  | .probe cause => "Probe(" ++ cause.message ++ ")"
  | .timeout => "Timeout"
  | .protect => "Protect"
  | .length => "Length"
  | .outOfBounds => "OutOfBounds"
  | .notAligned => "NotAligned"

/-- The kinds of error a generic flash user tells apart. -/
inductive ErrorKind where
  | notAligned
  | outOfBounds
  | other
  deriving DecidableEq

/-- The kind an error belongs to. -/
def Error.kind : Error → ErrorKind
  | .outOfBounds => .outOfBounds
  | .notAligned => .notAligned
  | _ => .other

/-- The error a kind stands for. -/
def ErrorKind.toError : ErrorKind → Error
  | .notAligned => .notAligned
  | .outOfBounds => .outOfBounds
  | .other => .command

@[simp] theorem ErrorKind.kind_toError (k : ErrorKind) : k.toError.kind = k := by
  cases k <;> rfl

end FlashBoot
