import FlashBoot.Part

/-!
# The ISSI parts
-/

namespace FlashBoot.Catalog

/-- The ISSI parts, in scan order. -/
def issi : List Part := [
  .ofIds "is25lq040b" 0x9d4013 0 (64 * 1024) 8 {.sect4K, .dualRead, .quadRead},
  .ofIds "is25lp032" 0x9d6016 0 (64 * 1024) 64 ∅,
  .ofIds "is25lp064" 0x9d6017 0 (64 * 1024) 128 ∅,
  .ofIds "is25lp128" 0x9d6018 0 (64 * 1024) 256 {.sect4K, .dualRead},
  .ofIds "is25lp256" 0x9d6019 0 (64 * 1024) 512 {.sect4K, .dualRead},
  .ofIds "is25wp032" 0x9d7016 0 (64 * 1024) 64 {.sect4K, .dualRead, .quadRead},
  .ofIds "is25wp064" 0x9d7017 0 (64 * 1024) 128 {.sect4K, .dualRead, .quadRead},
  .ofIds "is25wp128" 0x9d7018 0 (64 * 1024) 256 {.sect4K, .dualRead, .quadRead},
  .ofIds "is25wp256" 0x9d7019 0 (64 * 1024) 512 {.sect4K, .dualRead, .quadRead, .fourByteOpcodes}]

end FlashBoot.Catalog
