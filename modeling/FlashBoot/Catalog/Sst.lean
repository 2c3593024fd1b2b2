import FlashBoot.Part

/-!
# The SST parts
-/

namespace FlashBoot.Catalog

/-- The SST parts, in scan order. -/
def sst : List Part := [
  .ofIds "sst25vf040b" 0xbf258d 0 (64 * 1024) 8 {.sect4K, .sstWrite},
  .ofIds "sst25vf080b" 0xbf258e 0 (64 * 1024) 16 {.sect4K, .sstWrite},
  .ofIds "sst25vf016b" 0xbf2541 0 (64 * 1024) 32 {.sect4K, .sstWrite},
  .ofIds "sst25vf032b" 0xbf254a 0 (64 * 1024) 64 {.sect4K, .sstWrite},
  .ofIds "sst25vf064c" 0xbf254b 0 (64 * 1024) 128 {.sect4K},
  .ofIds "sst25wf512" 0xbf2501 0 (64 * 1024) 1 {.sect4K, .sstWrite},
  .ofIds "sst25wf010" 0xbf2502 0 (64 * 1024) 2 {.sect4K, .sstWrite},
  .ofIds "sst25wf020" 0xbf2503 0 (64 * 1024) 4 {.sect4K, .sstWrite},
  .ofIds "sst25wf020a" 0x621612 0 (64 * 1024) 4 {.sect4K},
  .ofIds "sst25wf040b" 0x621613 0 (64 * 1024) 8 {.sect4K},
  .ofIds "sst25wf040" 0xbf2504 0 (64 * 1024) 8 {.sect4K, .sstWrite},
  .ofIds "sst25wf080" 0xbf2505 0 (64 * 1024) 16 {.sect4K, .sstWrite},
  .ofIds "sst26vf064b" 0xbf2643 0 (64 * 1024) 128
    {.sect4KOnly, .unlockGlobalBlock, .sst26Lock, .dualRead, .quadRead},
  .ofIds "sst26wf016" 0xbf2651 0 (64 * 1024) 32 {.sect4K, .sst26Lock},
  .ofIds "sst26wf032" 0xbf2622 0 (64 * 1024) 64 {.sect4K, .sst26Lock},
  .ofIds "sst26wf064" 0xbf2643 0 (64 * 1024) 128 {.sect4K, .sst26Lock}]

end FlashBoot.Catalog
