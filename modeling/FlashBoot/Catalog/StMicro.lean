import FlashBoot.Part

/-!
# The ST parts
-/

namespace FlashBoot.Catalog

/-- The ST parts, in scan order. -/
def stMicro : List Part := [
  .ofIds "m25p10" 0x202011 0 (32 * 1024) 4 ∅,
  .ofIds "m25p20" 0x202012 0 (64 * 1024) 4 ∅,
  .ofIds "m25p40" 0x202013 0 (64 * 1024) 8 ∅,
  .ofIds "m25p80" 0x202014 0 (64 * 1024) 16 ∅,
  .ofIds "m25p16" 0x202015 0 (64 * 1024) 32 ∅,
  .ofIds "m25p32" 0x202016 0 (64 * 1024) 64 ∅,
  .ofIds "m25p64" 0x202017 0 (64 * 1024) 128 ∅,
  .ofIds "m25p128" 0x202018 0 (256 * 1024) 64 ∅,
  .ofIds "m25pe16" 0x208015 0 (64 * 1024) 32 {.sect4K},
  .ofIds "m25px16" 0x207115 0 (64 * 1024) 32 {.sect4K, .dualRead, .quadRead},
  .ofIds "m25px64" 0x207117 0 (64 * 1024) 128 ∅]

end FlashBoot.Catalog
