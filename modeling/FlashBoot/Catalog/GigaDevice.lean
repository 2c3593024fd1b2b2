import FlashBoot.Part

/-!
# The GigaDevice parts
-/

namespace FlashBoot.Catalog

/-- The GigaDevice parts, in scan order. -/
def gigaDevice : List Part := [
  .ofIds "gd25q16" 0xc84015 0 (64 * 1024) 32 {.sect4K, .dualRead, .quadRead, .hasLock, .hasTb},
  .ofIds "gd25q32" 0xc84016 0 (64 * 1024) 64 {.sect4K, .dualRead, .quadRead, .hasLock, .hasTb},
  .ofIds "gd25lq32" 0xc86016 0 (64 * 1024) 64 {.sect4K, .dualRead, .quadRead, .hasLock, .hasTb},
  .ofIds "gd25q64" 0xc84017 0 (64 * 1024) 128 {.sect4K, .dualRead, .quadRead, .hasLock, .hasTb},
  .ofIds "gd25lq64c" 0xc86017 0 (64 * 1024) 128 {.sect4K, .dualRead, .quadRead, .hasLock, .hasTb},
  .ofIds "gd25q128" 0xc84018 0 (64 * 1024) 256 {.sect4K, .dualRead, .quadRead, .hasLock, .hasTb},
  .ofIds "gd25lq128" 0xc86018 0 (64 * 1024) 256 {.sect4K, .dualRead, .hasLock, .hasTb}]

end FlashBoot.Catalog
