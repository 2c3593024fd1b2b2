import FlashBoot.Part

/-!
# The Atmel parts
-/

namespace FlashBoot.Catalog

/-- The Atmel parts, in scan order. -/
def atmel : List Part := [
  .ofIds "at26df321" 0x1f4700 0 (64 * 1024) 64 {.sect4K},
  .ofIds "at25df321a" 0x1f4701 0 (64 * 1024) 64 {.sect4K},
  .ofIds "at45db011d" 0x1f2200 0 (64 * 1024) 4 {.sect4K},
  .ofIds "at45db021d" 0x1f2300 0 (64 * 1024) 8 {.sect4K},
  .ofIds "at45db041d" 0x1f2400 0 (64 * 1024) 8 {.sect4K},
  .ofIds "at45db081d" 0x1f2500 0 (64 * 1024) 16 {.sect4K},
  .ofIds "at45db161d" 0x1f2600 0 (64 * 1024) 32 {.sect4K},
  .ofIds "at45db321d" 0x1f2700 0 (64 * 1024) 64 {.sect4K},
  .ofIds "at45db641d" 0x1f2800 0 (64 * 1024) 128 {.sect4K},
  .ofIds "at25sl321" 0x1f4216 0 (64 * 1024) 64 {.sect4K},
  .ofIds "at26df081a" 0x1f4501 0 (64 * 1024) 16 {.sect4K}]

end FlashBoot.Catalog
