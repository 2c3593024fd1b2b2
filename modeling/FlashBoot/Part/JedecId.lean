/-!
# Identifiers

The five bytes a device answers to the identification command. The first is the manufacturer, the
upper three bits of the second are the family code, and catalog parts are matched against a
prefix of all five.
-/

namespace FlashBoot

/-- The identification bytes of a device. -/
structure JedecId where
  bytes : Vector UInt8 5
  deriving DecidableEq

namespace JedecId

/-- The identifier held by the first five bytes, short strings being filled with zeros. -/
def ofBytes (bytes : List UInt8) : JedecId :=
  ⟨Vector.ofFn fun i => bytes.getD i 0⟩

/-- The manufacturer byte. -/
def manufacturer (id : JedecId) : UInt8 :=
  id.bytes[0]

/-- The family code: the upper three bits of the byte after the manufacturer. -/
def family (id : JedecId) : UInt8 :=
  id.bytes[1] &&& 0xE0

end JedecId

end FlashBoot
