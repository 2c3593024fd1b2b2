import FlashBoot.Part

/-!
# The Spansion parts
-/

namespace FlashBoot.Catalog

/-- The Spansion parts, in scan order. -/
def spansion : List Part := [
  .ofIds "s25sl032p" 0x010215 0x4d00 (64 * 1024) 64 {.dualRead, .quadRead},
  .ofIds "s25sl064p" 0x010216 0x4d00 (64 * 1024) 128 {.dualRead, .quadRead},
  .ofIds "s25fl256s0" 0x010219 0x4d00 (256 * 1024) 128 {.dualRead, .quadRead, .useClsr},
  .ofIds "s25fl256s1" 0x010219 0x4d01 (64 * 1024) 512 {.dualRead, .quadRead, .useClsr},
  .ofLongIds "s25fl512s" 0x010220 0x4d0080 (256 * 1024) 256 {.dualRead, .quadRead, .useClsr},
  .ofLongIds "s25fs512s" 0x010220 0x4d0081 (256 * 1024) 256 {.dualRead, .quadRead, .useClsr},
  .ofIds "s25fl512s_256k" 0x010220 0x4d00 (256 * 1024) 256 {.dualRead, .quadRead, .useClsr},
  .ofIds "s25fl512s_64k" 0x010220 0x4d01 (64 * 1024) 1024 {.dualRead, .quadRead, .useClsr},
  .ofIds "s25fl512s_512k" 0x010220 0x4f00 (256 * 1024) 256 {.dualRead, .quadRead, .useClsr},
  .ofIds "s25sl12800" 0x012018 0x0300 (256 * 1024) 64 ∅,
  .ofIds "s25sl12801" 0x012018 0x0301 (64 * 1024) 256 ∅,
  .ofLongIds "s25fl128s" 0x012018 0x4d0180 (64 * 1024) 256 {.dualRead, .quadRead, .useClsr},
  .ofIds "s25fl129p0" 0x012018 0x4d00 (256 * 1024) 64 {.dualRead, .quadRead, .useClsr},
  .ofIds "s25fl129p1" 0x012018 0x4d01 (64 * 1024) 256 {.dualRead, .quadRead, .useClsr},
  .ofIds "s25sl008a" 0x010213 0 (64 * 1024) 16 ∅,
  .ofIds "s25sl016a" 0x010214 0 (64 * 1024) 32 ∅,
  .ofIds "s25sl032a" 0x010215 0 (64 * 1024) 64 ∅,
  .ofIds "s25sl064a" 0x010216 0 (64 * 1024) 128 ∅,
  .ofIds "s25fl116k" 0x014015 0 (64 * 1024) 32 {.sect4K, .dualRead, .quadRead},
  .ofIds "s25fl164k" 0x014017 0 (64 * 1024) 128 {.sect4K},
  .ofIds "s25fl208k" 0x014014 0 (64 * 1024) 16 {.sect4K, .dualRead},
  .ofIds "s25fl064l" 0x016017 0 (64 * 1024) 128 {.sect4K, .dualRead, .quadRead, .fourByteOpcodes},
  .ofIds "s25fl128l" 0x016018 0 (64 * 1024) 256 {.sect4K, .dualRead, .quadRead, .fourByteOpcodes}]

end FlashBoot.Catalog
