import FlashBoot.Trap

/-!
# Words

Checked arithmetic on 32-bit words, and words as bytes. A checked operation answers a word or the
`Trap` that stops the machine, and its `_eq_ok_iff` lemma says exactly when it answers. Words are
read from byte strings in either byte order; a word that the string does not hold completely is
`none`.
-/

namespace FlashBoot.Word

/-! ## Checked arithmetic -/

/-- The product of two words; traps when the mathematical product is no word. -/
def mul (a b : UInt32) : Except Trap UInt32 :=
  if a.toNat * b.toNat < UInt32.size then .ok (a * b) else .error .multiplyOverflow

/-- Quotient and remainder; traps on a zero divisor. -/
def divMod (a b : UInt32) : Except Trap (UInt32 × UInt32) :=
  if b = 0 then .error .divideByZero else .ok (a / b, a % b)

/-- `a` shifted left by `width` bits; bits pushed out of the word are lost, and a width of 32 or
more traps. -/
def shiftLeft (a width : UInt32) : Except Trap UInt32 :=
  if width < 32 then .ok (a <<< width) else .error .shiftOverflow

theorem mul_eq_ok_iff {a b c : UInt32} :
    mul a b = .ok c ↔ a.toNat * b.toNat < UInt32.size ∧ c = a * b := by
  unfold mul
  split
  case isTrue h => exact ⟨fun e => ⟨h, (Except.ok.inj e).symm⟩, fun e => by rw [e.2]⟩
  case isFalse h => exact ⟨nofun, fun e => absurd e.1 h⟩

theorem mul_eq_error_iff {a b : UInt32} {t : Trap} :
    mul a b = .error t ↔ UInt32.size ≤ a.toNat * b.toNat ∧ t = .multiplyOverflow := by
  unfold mul
  split
  case isTrue h => exact ⟨nofun, fun e => by omega⟩
  case isFalse h =>
    exact ⟨fun e => ⟨Nat.not_lt.1 h, (Except.error.inj e).symm⟩, fun e => by rw [e.2]⟩

theorem divMod_eq_ok_iff {a b : UInt32} {r : UInt32 × UInt32} :
    divMod a b = .ok r ↔ b ≠ 0 ∧ r = (a / b, a % b) := by
  unfold divMod
  split
  case isTrue h => exact ⟨nofun, fun e => absurd h e.1⟩
  case isFalse h => exact ⟨fun e => ⟨h, (Except.ok.inj e).symm⟩, fun e => by rw [e.2]⟩

theorem shiftLeft_eq_ok_iff {a width c : UInt32} :
    shiftLeft a width = .ok c ↔ width < 32 ∧ c = a <<< width := by
  unfold shiftLeft
  split
  case isTrue h => exact ⟨fun e => ⟨h, (Except.ok.inj e).symm⟩, fun e => by rw [e.2]⟩
  case isFalse h => exact ⟨nofun, fun e => absurd e.1 h⟩

/-! ## Bytes -/

/-- Byte `i` of a word, counted from the least significant one. -/
def byte (w : UInt32) (i : UInt32) : UInt8 :=
  (w >>> (8 * i)).toUInt8

/-- The word with these bytes, most significant first. -/
def ofBytes (a b c d : UInt8) : UInt32 :=
  (a.toUInt32 <<< 24) ||| (b.toUInt32 <<< 16) ||| (c.toUInt32 <<< 8) ||| d.toUInt32

/-- The big-endian word at position `start` of a byte string. -/
def bigEndian? (bytes : List UInt8) (start : Nat) : Option UInt32 :=
  match bytes.drop start with
  | a :: b :: c :: d :: _ => some (ofBytes a b c d)
  | _ => none

/-- The little-endian word at position `start` of a byte string. -/
def littleEndian? (bytes : List UInt8) (start : Nat) : Option UInt32 :=
  match bytes.drop start with
  | a :: b :: c :: d :: _ => some (ofBytes d c b a)
  | _ => none

end FlashBoot.Word
