import FlashBoot.Geometry
import FlashBoot.Opcode
import FlashBoot.Word

/-!
# Device addresses

`Address.ofOffset` translates a flat byte offset for a geometry, and `Address.readCommand?` frames
the address behind the fast read opcode: four address bytes on a large device, three and a dummy
byte on any other. An address that the framing cannot carry (`Address.fits`) has no command.
-/

namespace FlashBoot

/-- An address on the memory chip. -/
structure Address where
  value : UInt32
  deriving DecidableEq

namespace Address

/-- The device address of a flat byte offset. On a page-multiplied device the page number is
shifted above the byte field, and page bits pushed out of the word are lost. -/
def ofOffset (g : Geometry) (offset : UInt32) : Except Trap Address :=
  match g.mode with
  | .linear => .ok ⟨offset⟩
  | .pageMultiplied => do
    let (page, byte) ← Word.divMod offset g.pageSize
    return ⟨(← Word.shiftLeft page g.fieldWidth) ||| byte⟩

/-- Whether the address bytes sent for `g` can carry the address. -/
def fits (a : Address) (g : Geometry) : Bool :=
  g.fourByte || a.value ≤ 0x00FFFFFF

/-- The three low address bytes, most significant first. -/
def lowBytes (a : Address) : List UInt8 :=
  [Word.byte a.value 2, Word.byte a.value 1, Word.byte a.value 0]

/-- The fast read command for this address, `none` when the framing cannot carry it. -/
def readCommand? (a : Address) (g : Geometry) : Option (List UInt8) :=
  if !a.fits g then none
  else if g.fourByte then some (Opcode.fastRead.byte :: Word.byte a.value 3 :: a.lowBytes)
  else some (Opcode.fastRead.byte :: a.lowBytes ++ [0])

/-- An opcode and three address bytes, as the erase commands take them. -/
def eraseCommand (a : Address) (opcode : Opcode) : List UInt8 :=
  opcode.byte :: a.lowBytes

@[simp] theorem ofOffset_linear {g : Geometry} (h : g.mode = .linear) (offset : UInt32) :
    ofOffset g offset = .ok ⟨offset⟩ := by
  simp [ofOffset, h]

theorem readCommand?_eq_none_iff {a : Address} {g : Geometry} :
    a.readCommand? g = none ↔ a.fits g = false := by
  unfold readCommand?
  cases a.fits g <;> simp
  split <;> simp

end Address

end FlashBoot
