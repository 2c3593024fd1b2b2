/-!
# Machine traps

Word arithmetic without an answer stops the machine: a product above the word, a division by zero,
a shift by the whole width, a slice past the end of its array. `Trap` names these causes; the
checked operations that raise them are in `FlashBoot.Word`.
-/

namespace FlashBoot

/-- Why the machine stopped. -/
inductive Trap where
  /-- A product does not fit the word. -/
  | multiplyOverflow
  /-- A quotient or remainder by zero. -/
  | divideByZero
  /-- A left shift by 32 bits or more. -/
  | shiftOverflow
  /-- A slice of `length` elements was cut at `stop`, which is past its end. -/
  | rangeEnd (stop length : Nat)
  deriving DecidableEq

/-- The wording of a trap. -/
def Trap.message : Trap → String
  | .multiplyOverflow => "attempt to multiply with overflow"
  | .divideByZero => "attempt to divide by zero"
  | .shiftOverflow => "attempt to shift left with overflow"
  | .rangeEnd stop length =>
    "range end index " ++ toString stop ++ " out of range for slice of length " ++ toString length

end FlashBoot
