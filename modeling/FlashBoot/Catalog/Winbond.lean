import FlashBoot.Part

/-!
# The Winbond parts
-/

namespace FlashBoot.Catalog

/-- The Winbond parts, in scan order. -/
def winbond : List Part := [
  .ofIds "w25p80" 0xef2014 0 (64 * 1024) 16 ∅,
  .ofIds "w25p16" 0xef2015 0 (64 * 1024) 32 ∅,
  .ofIds "w25p32" 0xef2016 0 (64 * 1024) 64 ∅,
  .ofIds "w25x05" 0xef3010 0 (64 * 1024) 1 {.sect4K},
  .ofIds "w25x40" 0xef3013 0 (64 * 1024) 8 {.sect4K},
  .ofIds "w25x16" 0xef3015 0 (64 * 1024) 32 {.sect4K},
  .ofIds "w25q16dw" 0xef6015 0 (64 * 1024) 32 {.sect4K, .dualRead, .quadRead, .hasLock, .hasTb},
  .ofIds "w25x32" 0xef3016 0 (64 * 1024) 64 {.sect4K},
  .ofIds "w25q20cl" 0xef4012 0 (64 * 1024) 4 {.sect4K},
  .ofIds "w25q20bw" 0xef5012 0 (64 * 1024) 4 {.sect4K},
  .ofIds "w25q20ew" 0xef6012 0 (64 * 1024) 4 {.sect4K},
  .ofIds "w25q32" 0xef4016 0 (64 * 1024) 64 {.sect4K, .dualRead, .quadRead},
  .ofIds "w25q32dw" 0xef6016 0 (64 * 1024) 64 {.sect4K, .dualRead, .quadRead, .hasLock, .hasTb},
  .ofIds "w25q32jv" 0xef7016 0 (64 * 1024) 64 {.sect4K, .dualRead, .quadRead, .hasLock, .hasTb},
  .ofIds "w25q32jwm" 0xef8016 0 (64 * 1024) 64 {.sect4K, .dualRead, .quadRead, .hasLock, .hasTb},
  .ofIds "w25x64" 0xef3017 0 (64 * 1024) 128 {.sect4K},
  .ofIds "w25q64dw" 0xef6017 0 (64 * 1024) 128 {.sect4K, .dualRead, .quadRead, .hasLock, .hasTb},
  .ofIds "w25q64jv" 0xef7017 0 (64 * 1024) 128 {.sect4K, .dualRead, .quadRead, .hasLock, .hasTb},
  .ofIds "w25q128fw" 0xef6018 0 (64 * 1024) 256 {.sect4K, .dualRead, .quadRead, .hasLock, .hasTb},
  .ofIds "w25q128jv" 0xef7018 0 (64 * 1024) 256 {.sect4K, .dualRead, .quadRead, .hasLock, .hasTb},
  .ofIds "w25q256fw" 0xef6019 0 (64 * 1024) 512 {.sect4K, .dualRead, .quadRead, .hasLock, .hasTb},
  .ofIds "w25q256jw" 0xef7019 0 (64 * 1024) 512 {.sect4K, .dualRead, .quadRead, .hasLock, .hasTb},
  .ofIds "w25q80" 0xef5014 0 (64 * 1024) 16 {.sect4K},
  .ofIds "w25q80bl" 0xef4014 0 (64 * 1024) 16 {.sect4K, .dualRead, .quadRead},
  .ofIds "w25q16cl" 0xef4015 0 (64 * 1024) 32 {.sect4K, .dualRead, .quadRead},
  .ofIds "w25q64cv" 0xef4017 0 (64 * 1024) 128 {.sect4K, .dualRead, .quadRead},
  .ofIds "w25q128" 0xef4018 0 (64 * 1024) 256 {.sect4K, .dualRead, .quadRead, .hasLock, .hasTb},
  .ofIds "w25q256" 0xef4019 0 (64 * 1024) 512 {.sect4K, .dualRead, .quadRead},
  .ofIds "w25m512jw" 0xef6119 0 (64 * 1024) 1024 {.sect4K, .dualRead, .quadRead},
  .ofIds "w25m512jv" 0xef7119 0 (64 * 1024) 1024 {.sect4K, .dualRead, .quadRead}]

end FlashBoot.Catalog
