import FlashBoot.Part

/-!
# The Micron parts
-/

namespace FlashBoot.Catalog

/-- The Micron parts, in scan order. -/
def micron : List Part := [
  .ofIds "n25q016a" 0x20bb15 0 (64 * 1024) 32 {.sect4K, .quadRead},
  .ofIds "n25q032" 0x20ba16 0 (64 * 1024) 64 {.quadRead},
  .ofIds "n25q032a" 0x20bb16 0 (64 * 1024) 64 {.quadRead},
  .ofIds "n25q064" 0x20ba17 0 (64 * 1024) 128 {.sect4K, .quadRead},
  .ofIds "n25q064a" 0x20bb17 0 (64 * 1024) 128 {.sect4K, .quadRead},
  .ofIds "n25q128a11" 0x20bb18 0 (64 * 1024) 256 {.sect4K, .quadRead},
  .ofIds "n25q128a13" 0x20ba18 0 (64 * 1024) 256 {.sect4K, .quadRead},
  .ofLongIds "mt25ql256a" 0x20ba19 0x104400 (64 * 1024) 512
    {.sect4K, .dualRead, .quadRead, .fourByteOpcodes, .useFsr},
  .ofIds "n25q256a" 0x20ba19 0 (64 * 1024) 512 {.sect4K, .dualRead, .quadRead, .useFsr},
  .ofLongIds "mt25qu256a" 0x20bb19 0x104400 (64 * 1024) 512
    {.sect4K, .quadRead, .fourByteOpcodes, .useFsr},
  .ofIds "n25q256ax1" 0x20bb19 0 (64 * 1024) 512 {.sect4K, .quadRead, .useFsr},
  .ofLongIds "mt25qu512a" 0x20bb20 0x104400 (64 * 1024) 1024
    {.dualRead, .quadRead, .fourByteOpcodes, .useFsr},
  .ofIds "n25q512a" 0x20bb20 0 (64 * 1024) 1024 {.sect4K, .useFsr, .quadRead},
  .ofLongIds "mt25ql512a" 0x20ba20 0x104400 (64 * 1024) 1024
    {.sect4K, .useFsr, .quadRead, .fourByteOpcodes},
  .ofIds "n25q512ax3" 0x20ba20 0 (64 * 1024) 1024 {.sect4K, .useFsr, .quadRead},
  .ofIds "n25q00" 0x20ba21 0 (64 * 1024) 2048 {.sect4K, .useFsr, .quadRead, .noChipErase},
  .ofIds "n25q00a" 0x20bb21 0 (64 * 1024) 2048 {.sect4K, .useFsr, .quadRead, .noChipErase},
  .ofIds "mt25ql01g" 0x21ba20 0 (64 * 1024) 2048 {.sect4K, .useFsr, .quadRead, .noChipErase},
  .ofIds "mt25qu02g" 0x20bb22 0 (64 * 1024) 4096 {.sect4K, .useFsr, .quadRead, .noChipErase},
  .ofIds "mt35xu512aba" 0x2c5b1a 0 (128 * 1024) 512 {.useFsr, .octalRead, .fourByteOpcodes},
  .ofIds "mt35xu02g" 0x2c5b1c 0 (128 * 1024) 2048 {.useFsr, .octalRead, .fourByteOpcodes}]

end FlashBoot.Catalog
