import FlashBoot.Part

/-!
# The Macronix parts
-/

namespace FlashBoot.Catalog

/-- The Macronix parts, in scan order. -/
def macronix : List Part := [
  .ofIds "mx25l2005a" 0xc22012 0 (64 * 1024) 4 {.sect4K},
  .ofIds "mx25l4005a" 0xc22013 0 (64 * 1024) 8 {.sect4K},
  .ofIds "mx25l8005" 0xc22014 0 (64 * 1024) 16 ∅,
  .ofIds "mx25l1606e" 0xc22015 0 (64 * 1024) 32 {.sect4K},
  .ofIds "mx25l3205d" 0xc22016 0 (64 * 1024) 64 {.sect4K},
  .ofIds "mx25l6405d" 0xc22017 0 (64 * 1024) 128 {.sect4K},
  .ofIds "mx25u2033e" 0xc22532 0 (64 * 1024) 4 {.sect4K},
  .ofIds "mx25u1635e" 0xc22535 0 (64 * 1024) 32 {.sect4K},
  .ofIds "mx25u3235f" 0xc22536 0 (4 * 1024) 1024 {.sect4K},
  .ofIds "mx25u6435f" 0xc22537 0 (64 * 1024) 128 {.sect4K},
  .ofIds "mx25l12805d" 0xc22018 0 (64 * 1024) 256 {.sect4K},
  .ofIds "mx25u12835f" 0xc22538 0 (64 * 1024) 256 {.sect4K},
  .ofIds "mx25l12855e" 0xc22618 0 (64 * 1024) 256 ∅,
  .ofIds "mx25l25635e" 0xc22019 0 (64 * 1024) 512 {.dualRead, .quadRead},
  .ofIds "mx25u25635f" 0xc22539 0 (64 * 1024) 512 {.sect4K, .fourByteOpcodes},
  .ofIds "mx25l25655e" 0xc22619 0 (64 * 1024) 512 ∅,
  .ofIds "mx66l51235l" 0xc2201a 0 (64 * 1024) 1024 {.dualRead, .quadRead, .fourByteOpcodes},
  .ofIds "mx66u51235f" 0xc2253a 0 (64 * 1024) 1024
    {.sect4K, .dualRead, .quadRead, .fourByteOpcodes},
  .ofIds "mx66u2g45g" 0xc2253c 0 (64 * 1024) 4096 {.sect4K, .dualRead, .quadRead, .fourByteOpcodes},
  .ofIds "mx66l1g45g" 0xc2201b 0 (64 * 1024) 2048 {.sect4K, .dualRead, .quadRead},
  .ofIds "mx25l1633e" 0xc22415 0 (64 * 1024) 32 {.quadRead, .fourByteOpcodes, .sect4K},
  .ofIds "mx25r6435f" 0xc22817 0 (64 * 1024) 128 {.sect4K}]

end FlashBoot.Catalog
