import FlashBoot.Part

/-!
# The EON parts
-/

namespace FlashBoot.Catalog

/-- The EON parts, in scan order. -/
def eon : List Part := [
  .ofIds "en25q32b" 0x1c3016 0 (64 * 1024) 64 ∅,
  .ofIds "en25q64" 0x1c3017 0 (64 * 1024) 128 {.sect4K},
  .ofIds "en25qh128" 0x1c7018 0 (64 * 1024) 256 ∅,
  .ofIds "en25s64" 0x1c3817 0 (64 * 1024) 128 {.sect4K}]

end FlashBoot.Catalog
