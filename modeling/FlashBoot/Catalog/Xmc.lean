import FlashBoot.Part

/-!
# The XMC parts
-/

namespace FlashBoot.Catalog

/-- The XMC parts, in scan order. -/
def xmc : List Part := [
  .ofIds "XM25QH64A" 0x207017 0 (64 * 1024) 128 {.sect4K, .dualRead, .quadRead},
  .ofIds "XM25QH128A" 0x207018 0 (64 * 1024) 256 {.sect4K, .dualRead, .quadRead}]

end FlashBoot.Catalog
