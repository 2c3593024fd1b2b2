import FlashBoot.Board
import FlashBoot.Device.Density
import FlashBoot.Geometry.Address
import Mathlib.Algebra.Ring.Nat
import Mathlib.Data.List.Induction

/-!
# Addresses on the bus

What a flat offset becomes on the bus, and what the device makes of it.

* `readCommand?_eq`: an address that fits is framed as a fast read (`Geometry.fastRead`), and
  `readAddress_fastRead`: a device that decodes as many address bytes as are sent reads it.
* A byte string is told by its length and the number it writes (`numberOf`, `addressBytes`).
* `Geometry.exact` is the page-multiplied address of a flat offset as a number. It is strictly
  monotone (`exact_lt_exact`), so no two offsets share one, and `Geometry.flat` takes it back
  (`flat_exact`), but the translation only keeps its low 32 bits (`ofOffset_eq`).
-/

namespace FlashBoot

/-! ## Words -/

theorem size_eq : UInt32.size = 2 ^ 32 := rfl

theorem toNat_ofNat {n : Nat} (h : n < 2 ^ 32) : (UInt32.ofNat n).toNat = n :=
  UInt32.toNat_ofNat_of_lt' h

theorem toNat_add_ofNat {a : UInt32} {n : Nat} (h : a.toNat + n < 2 ^ 32) :
    (a + UInt32.ofNat n).toNat = a.toNat + n := by
  rw [UInt32.toNat_add, toNat_ofNat (by omega)]
  exact Nat.mod_eq_of_lt h

theorem byte_eq (w : UInt32) {i : UInt32} (h : i.toNat < 4) :
    Word.byte w i = .ofNat (w.toNat / 256 ^ i.toNat) := by
  have hshift : (8 * i).toNat = 8 * i.toNat := by
    rw [UInt32.toNat_mul]
    exact Nat.mod_eq_of_lt (show 8 * i.toNat < 2 ^ 32 by omega)
  rw [← UInt8.toNat_inj, Word.byte, UInt32.toNat_toUInt8, UInt32.toNat_shiftRight, hshift,
    Nat.mod_eq_of_lt (show 8 * i.toNat < 32 by omega), Nat.shiftRight_eq_div_pow, Nat.pow_mul,
    UInt8.toNat_ofNat']

/-! ## Byte strings -/

/-- The low `width` bytes of an address, most significant first. -/
def addressBytes (width address : Nat) : List UInt8 :=
  (List.range width).map fun i => .ofNat (address / 256 ^ (width - 1 - i))

/-- The number that a byte string writes, most significant byte first. -/
def numberOf (bytes : List UInt8) : Nat :=
  bytes.foldl (fun n b => n * 256 + b.toNat) 0

@[simp] theorem length_addressBytes (width address : Nat) :
    (addressBytes width address).length = width := by
  simp [addressBytes]

theorem addressBytes_succ (width address : Nat) :
    addressBytes (width + 1) address = addressBytes width (address / 256) ++ [.ofNat address] := by
  have hbyte : ∀ i ∈ List.range width, UInt8.ofNat (address / 256 ^ (width + 1 - 1 - i)) =
      .ofNat (address / 256 / 256 ^ (width - 1 - i)) := by
    intro i hi
    have hlt := List.mem_range.1 hi
    have hplace : width + 1 - 1 - i = width - 1 - i + 1 := by omega
    rw [Nat.div_div_eq_div_mul, ← Nat.pow_succ', hplace]
  rw [addressBytes, List.range_succ, List.map_append, List.map_congr_left hbyte, addressBytes]
  simp

theorem numberOf_concat (bytes : List UInt8) (b : UInt8) :
    numberOf (bytes ++ [b]) = numberOf bytes * 256 + b.toNat := by
  rw [numberOf, List.foldl_append]
  rfl

theorem numberOf_addressBytes {width n : Nat} (h : n < 256 ^ width) :
    numberOf (addressBytes width n) = n := by
  induction width generalizing n with
  | zero =>
    have hzero : n = 0 := by simpa using h
    rw [hzero]
    rfl
  | succ width ih =>
    rw [Nat.pow_succ] at h
    rw [addressBytes_succ, numberOf_concat, ih (by omega), UInt8.toNat_ofNat']
    omega

/-- A byte string is told by its length and the number it writes. -/
theorem addressBytes_numberOf (bytes : List UInt8) :
    addressBytes bytes.length (numberOf bytes) = bytes := by
  induction bytes using List.reverseRecOn with
  | nil => rfl
  | append_singleton bytes b ih =>
    have hb := b.toNat_lt
    have hdiv : numberOf (bytes ++ [b]) / 256 = numberOf bytes := by
      rw [numberOf_concat]
      omega
    have hlow : UInt8.ofNat (numberOf (bytes ++ [b])) = b := by
      rw [← UInt8.toNat_inj, UInt8.toNat_ofNat', numberOf_concat]
      omega
    rw [List.length_append, List.length_singleton, addressBytes_succ, hdiv, hlow, ih]

theorem numberOf_eq_iff {bytes : List UInt8} {n : Nat} (h : n < 256 ^ bytes.length) :
    numberOf bytes = n ↔ bytes = addressBytes bytes.length n := by
  constructor
  · rintro rfl
    exact (addressBytes_numberOf bytes).symm
  · intro hbytes
    rw [hbytes, numberOf_addressBytes h]

/-! ## Framing -/

/-- How many device addresses the address bytes sent for a geometry can tell apart. -/
def Geometry.reach (g : Geometry) : Nat := if g.fourByte then 2 ^ 32 else 2 ^ 24

theorem Geometry.fourByte_eq_false_iff {g : Geometry} : g.fourByte = false ↔ g.pages ≤ 16384 := by
  rw [fourByte, decide_eq_false_iff_not]
  exact UInt32.not_lt

theorem Geometry.reach_le (g : Geometry) : g.reach ≤ 2 ^ 32 := by
  unfold reach
  split <;> omega

theorem fits_iff {a : Address} {g : Geometry} : a.fits g = true ↔ a.value.toNat < g.reach := by
  have hv := a.value.toNat_lt
  unfold Address.fits Geometry.reach
  cases g.fourByte with
  | true => simpa using hv
  | false =>
    simp only [Bool.false_or, decide_eq_true_eq, UInt32.le_iff_toNat_le, Bool.false_eq_true,
      ↓reduceIte]
    show a.value.toNat ≤ 16777215 ↔ _
    omega

/-- The fast read from an address, in the framing of a geometry. -/
def Geometry.fastRead (g : Geometry) (address : Nat) : List UInt8 :=
  Opcode.fastRead.byte ::
    if g.fourByte then addressBytes 4 address else addressBytes 3 address ++ [0x00]

theorem Geometry.fastRead_ne_nil (g : Geometry) (address : Nat) : g.fastRead address ≠ [] :=
  List.cons_ne_nil _ _

theorem readCommand?_eq {a : Address} {g : Geometry} (h : a.fits g = true) :
    a.readCommand? g = some (g.fastRead a.value.toNat) := by
  unfold Address.readCommand? Geometry.fastRead
  rw [h]
  cases g.fourByte <;> simp [Address.lowBytes, addressBytes, List.range_succ, byte_eq]

/-- A device that decodes as many address bytes as are sent reads the address that was framed. -/
theorem readAddress_fastRead {b : Board} {g : Geometry} (hb : b.fourByte = g.fourByte)
    {address : Nat} (h : address < g.reach) : b.readAddress (g.fastRead address) = address := by
  unfold Geometry.reach at h
  unfold Board.readAddress Geometry.fastRead
  cases hg : g.fourByte with
  | true =>
    rw [hg] at h hb
    simp [hb, addressBytes, List.range_succ] at h ⊢
    omega
  | false =>
    rw [hg] at h hb
    simp [hb, addressBytes, List.range_succ] at h ⊢
    omega

/-! ## Translation -/

/-- The trap is that of some offset. -/
def Geometry.Traps (g : Geometry) (t : Trap) : Prop :=
  ∃ offset, Address.ofOffset g offset = .error t

/-- The flat offset has an address that the address bytes can carry. -/
def Geometry.Carries (g : Geometry) (offset : UInt32) : Prop :=
  ∃ address, Address.ofOffset g offset = .ok address ∧ address.fits g = true

/-- The `count` offsets from `start` on have the addresses `address`, and these are in reach. -/
def Geometry.Addresses (g : Geometry) (address : Nat → Nat) (start count : Nat) : Prop :=
  ∀ x, start ≤ x → x < start + count →
    Address.ofOffset g (.ofNat x) = .ok ⟨.ofNat (address x)⟩ ∧ address x < g.reach

theorem Geometry.addresses_linear {g : Geometry} (hmode : g.mode = .linear) {start count : Nat}
    (h : start + count ≤ g.reach) : g.Addresses id start count := by
  intro x _ hx
  exact ⟨Address.ofOffset_linear hmode _, show x < g.reach by omega⟩

/-! ## Page-multiplied addresses -/

/-- The page-multiplied address of a flat offset, as a number without a bound. -/
def Geometry.exact (g : Geometry) (x : Nat) : Nat :=
  x / g.pageSize.toNat * 2 ^ g.fieldWidth.toNat + x % g.pageSize.toNat

/-- The flat offset of the byte at a page-multiplied address. -/
def Geometry.flat (g : Geometry) (address : Nat) : Nat :=
  address / 2 ^ g.fieldWidth.toNat * g.pageSize.toNat + address % 2 ^ g.fieldWidth.toNat

/-- A page-multiplied geometry whose pages fit their byte field. -/
structure Geometry.Paged (g : Geometry) : Prop where
  mode : g.mode = .pageMultiplied
  threeByte : g.fourByte = false
  pos : 0 < g.pageSize.toNat
  page : g.pageSize.toNat ≤ 2 ^ g.fieldWidth.toNat
  width : g.fieldWidth.toNat < 32

/-- Every DataFlash that keeps its own page size is page-multiplied. -/
theorem Density.paged {d : Density} (h : d ∈ table) : (d.geometry false).Paged := by
  have hall : ∀ d ∈ table, (d.geometry false).mode = .pageMultiplied ∧
      (d.geometry false).fourByte = false ∧ 0 < (d.geometry false).pageSize.toNat ∧
      (d.geometry false).pageSize.toNat ≤ 2 ^ (d.geometry false).fieldWidth.toNat ∧
      (d.geometry false).fieldWidth.toNat < 32 := by decide
  obtain ⟨hm, hf, hp, hw, hs⟩ := hall d h
  exact ⟨hm, hf, hp, hw, hs⟩

namespace Geometry.Paged

variable {g : Geometry}

theorem reach_eq (h : g.Paged) : g.reach = 2 ^ 24 := by
  rw [reach, h.threeByte]
  rfl

theorem exact_lt_exact (h : g.Paged) {x y : Nat} (hxy : x < y) : g.exact x < g.exact y := by
  have hpage := h.page
  have hx := Nat.mod_lt x h.pos
  have hdiv : x / g.pageSize.toNat ≤ y / g.pageSize.toNat := Nat.div_le_div_right (by omega)
  have hx' := Nat.div_add_mod' x g.pageSize.toNat
  have hy' := Nat.div_add_mod' y g.pageSize.toNat
  unfold exact
  rcases Nat.lt_or_ge (x / g.pageSize.toNat) (y / g.pageSize.toNat) with hlt | hge
  · -- the byte field is wide enough for the offset within the lower page
    have hnext := Nat.mul_le_mul_right (2 ^ g.fieldWidth.toNat) (Nat.succ_le_of_lt hlt)
    rw [Nat.succ_mul] at hnext
    omega
  · have heq : x / g.pageSize.toNat = y / g.pageSize.toNat := by omega
    rw [heq] at hx' ⊢
    omega

theorem exact_le_exact (h : g.Paged) {x y : Nat} (hxy : x ≤ y) : g.exact x ≤ g.exact y := by
  rcases Nat.lt_or_eq_of_le hxy with hlt | rfl
  · exact Nat.le_of_lt (h.exact_lt_exact hlt)
  · exact Nat.le_refl _

theorem exact_injective (h : g.Paged) {x y : Nat} (hxy : g.exact x = g.exact y) : x = y := by
  rcases Nat.lt_trichotomy x y with hlt | heq | hlt
  · have := h.exact_lt_exact hlt
    omega
  · exact heq
  · have := h.exact_lt_exact hlt
    omega

theorem exact_div (h : g.Paged) (x : Nat) :
    g.exact x / 2 ^ g.fieldWidth.toNat = x / g.pageSize.toNat := by
  have hbyte := Nat.lt_of_lt_of_le (Nat.mod_lt x h.pos) h.page
  rw [exact, Nat.add_comm, Nat.add_mul_div_right _ _ (Nat.two_pow_pos _),
    Nat.div_eq_of_lt hbyte, Nat.zero_add]

theorem exact_mod (h : g.Paged) (x : Nat) :
    g.exact x % 2 ^ g.fieldWidth.toNat = x % g.pageSize.toNat := by
  have hbyte := Nat.lt_of_lt_of_le (Nat.mod_lt x h.pos) h.page
  rw [exact, Nat.mul_add_mod_self_right, Nat.mod_eq_of_lt hbyte]

theorem flat_exact (h : g.Paged) (x : Nat) : g.flat (g.exact x) = x := by
  rw [flat, h.exact_div, h.exact_mod, Nat.div_add_mod']

/-- The translation keeps the low 32 bits of the exact address. -/
theorem ofOffset_eq (h : g.Paged) (offset : UInt32) :
    Address.ofOffset g offset = .ok ⟨.ofNat (g.exact offset.toNat)⟩ := by
  have hdiv : g.pageSize ≠ 0 := by
    intro h0
    have hpos := h.pos
    rw [h0] at hpos
    exact absurd hpos (by decide)
  have hshift : g.fieldWidth < 32 := UInt32.lt_iff_toNat_lt.2 h.width
  have hbyte : offset.toNat % g.pageSize.toNat < 2 ^ g.fieldWidth.toNat :=
    Nat.lt_of_lt_of_le (Nat.mod_lt _ h.pos) h.page
  -- the byte field lies below the page number, so joining the two is adding them
  have hvalue : (offset / g.pageSize) <<< g.fieldWidth ||| offset % g.pageSize =
      .ofNat (g.exact offset.toNat) := by
    rw [Geometry.exact, ← Nat.shiftLeft_eq, Nat.shiftLeft_add_eq_or_of_lt hbyte, UInt32.ofNat_or,
      UInt32.ofNat_shiftLeft _ _ h.width, ← UInt32.toNat_div, ← UInt32.toNat_mod]
    simp only [UInt32.ofNat_toNat]
  have hdm : Word.divMod offset g.pageSize = .ok (offset / g.pageSize, offset % g.pageSize) :=
    Word.divMod_eq_ok_iff.2 ⟨hdiv, rfl⟩
  have hsh : Word.shiftLeft (offset / g.pageSize) g.fieldWidth =
      .ok ((offset / g.pageSize) <<< g.fieldWidth) := Word.shiftLeft_eq_ok_iff.2 ⟨hshift, rfl⟩
  unfold Address.ofOffset
  rw [h.mode, ← hvalue]
  simp only [hdm, bind, Except.bind, hsh, pure, Except.pure]

/-- Two offsets get the same address when their exact addresses agree in the low 32 bits. -/
theorem ofOffset_eq_iff (h : g.Paged) (x y : UInt32) :
    Address.ofOffset g x = Address.ofOffset g y ↔
      g.exact x.toNat % 2 ^ 32 = g.exact y.toNat % 2 ^ 32 := by
  rw [h.ofOffset_eq, h.ofOffset_eq, Except.ok.injEq, Address.mk.injEq, ← UInt32.toNat_inj,
    UInt32.toNat_ofNat', UInt32.toNat_ofNat']

end Geometry.Paged

end FlashBoot
