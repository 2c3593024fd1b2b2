/-!
# Status scripts

What a status register answers, read after read. A script is an endless sequence of bytes and the
number of bytes already handed out; one made from finitely many bytes repeats the last of them.
-/

namespace FlashBoot

/-- An endless sequence of register bytes, some of which were already read. -/
structure StatusScript where
  answer : Nat → UInt8
  used : Nat

namespace StatusScript

/-- The script of the given bytes. The last one repeats, and without any the register reads as
`0xFF`. -/
def ofBytes (bytes : Array UInt8) : StatusScript where
  answer i := bytes[i]?.getD (bytes.back?.getD 0xFF)
  used := 0

/-- The next `count` bytes, and the script after them. -/
def read (s : StatusScript) (count : Nat) : List UInt8 × StatusScript :=
  ((List.range count).map fun i => s.answer (s.used + i), { s with used := s.used + count })

end StatusScript

end FlashBoot
