/-!
# Hexadecimal numbers

How the driver's messages write addresses and codes.
-/

namespace FlashBoot

/-- A number in lower case hexadecimal behind `0x`, without leading zeros. -/
def hex (n : Nat) : String :=
  "0x" ++ String.ofList (Nat.toDigits 16 n)

end FlashBoot
