import FlashBoot.Board.Setup
import FlashBoot.Proofs.Device.Identification
import FlashBoot.Proofs.Flash.Read

/-!
# Page-multiplied reads out of reach

A DataFlash that keeps its own page size is sent three address bytes, which reach the exact
page-multiplied addresses below `2 ^ 24`. A read that leaves them should be rejected as a whole
(`Flash.Rejects`), but the translation drops the page bits above the word, and so the check of the
last byte and that of each chunk see the exact address modulo `2 ^ 32` only.

* `Flash.read_rejects_iff`: the exact condition under which a read is rejected as a whole.
* `pagedRead_rejects_iff` states it for the identified devices and the ranges out of reach, with the
  offsets that share an address: those whose exact addresses differ by a multiple of `2 ^ 32`.
* `pagedRead_aliased`: the first offset whose address wraps to 0 is out of reach and read anyway.
-/

namespace FlashBoot

/-- Some flat offset of the range has no address in three bytes. -/
def Geometry.OutOfReach (g : Geometry) (start count : Nat) : Prop :=
  ∃ x, start ≤ x ∧ x < start + count ∧ (2 ^ 32 ≤ x ∨ 0x00FFFFFF < g.exact x)

/-- A read ends out of bounds, sends nothing, and leaves the buffer as it was. -/
def Flash.Rejects (f : Flash) (b : Board) (offset : UInt32) (buffer : List UInt8) : Prop :=
  (f.read offset buffer b).value = ⟨.error (.error .outOfBounds), buffer⟩ ∧
    (f.read offset buffer b).events = []

/-- The range leaves the reach where its last byte does. -/
theorem Geometry.Paged.outOfReach_iff {g : Geometry} (h : g.Paged) {start count : Nat}
    (hcount : 0 < count) : g.OutOfReach start count ↔
      2 ^ 32 < start + count ∨ 0x00FFFFFF < g.exact (start + count - 1) := by
  constructor
  · rintro ⟨x, hx, hx', hword | haddr⟩
    · exact .inl (by omega)
    · have hle := h.exact_le_exact (show x ≤ start + count - 1 by omega)
      exact .inr (by omega)
  · rintro (hword | haddr)
    · exact ⟨start + count - 1, by omega, by omega, .inl (by omega)⟩
    · exact ⟨start + count - 1, by omega, by omega, .inr haddr⟩

namespace Flash

variable {f : Flash}

/-- The three address bytes see the exact address modulo the word. -/
theorem fits_paged_iff (h : f.geometry.Paged) (n : Nat) :
    (Address.mk (.ofNat n)).fits f.geometry = true ↔ n % 2 ^ 32 ≤ 0x00FFFFFF := by
  rw [fits_iff, UInt32.toNat_ofNat', h.reach_eq]
  omega

/-- A read whose first chunk has an address sends it. -/
theorem events_readChunks_ne_nil {size : Nat} (sizes : List Nat) {offset : UInt32}
    {address : Address} {buffer : List UInt8}
    (h : Address.ofOffset f.geometry offset = .ok address)
    (hfits : address.fits f.geometry = true) (hbuffer : buffer.take size ≠ []) (b : Board) :
    (f.readChunks (size :: sizes) offset buffer b).events ≠ [] := by
  have hchunk : (f.readChunk offset (buffer.take size) b).events ≠ [] := by
    rw [readChunk_of_fits h hfits, Bus.read_eq (f.geometry.fastRead_ne_nil _) hbuffer,
      Drive.bind_apply, Outcome.events, Trace.events_append]
    exact List.append_ne_nil_of_left_ne_nil (List.cons_ne_nil _ _) _
  rw [readChunks, Drive.bind_apply, Outcome.events, Trace.events_append]
  exact fun h => hchunk (List.append_eq_nil_iff.1 h).1

/-- A read whose first chunk has no address ends there. -/
theorem readChunks_of_not_fits {size : Nat} {sizes : List Nat} {offset : UInt32}
    {address : Address} (h : Address.ofOffset f.geometry offset = .ok address)
    (hfits : address.fits f.geometry = false) (buffer : List UInt8) (b : Board) :
    f.readChunks (size :: sizes) offset buffer b =
      ⟨⟨.error (.error .outOfBounds), buffer⟩, b, []⟩ := by
  rw [readChunks, readChunk_of_not_fits h hfits, Drive.bind_apply]
  simp

/-- A read is rejected as a whole when it leaves the word, or when the truncated address of its last
or of its first byte does not fit the three address bytes. -/
theorem read_rejects_iff (h : f.geometry.Paged) (b : Board) (offset : UInt32)
    {buffer : List UInt8} (hbuffer : buffer ≠ []) :
    f.Rejects b offset buffer ↔ 2 ^ 32 < offset.toNat + buffer.length ∨
      0x00FFFFFF < f.geometry.exact (offset.toNat + buffer.length - 1) % 2 ^ 32 ∨
      0x00FFFFFF < f.geometry.exact offset.toNat % 2 ^ 32 := by
  have hlen : 0 < buffer.length := List.length_pos_iff.2 hbuffer
  have hread := read_eq (f := f) hbuffer (h.ofOffset_eq (offset + .ofNat (buffer.length - 1)))
  unfold Rejects
  rw [hread]
  by_cases hword : 2 ^ 32 < offset.toNat + buffer.length
  · rw [if_pos hword]
    exact ⟨fun _ => .inl hword, fun _ => ⟨rfl, rfl⟩⟩
  have hlast : (offset + .ofNat (buffer.length - 1)).toNat = offset.toNat + buffer.length - 1 := by
    rw [toNat_add_ofNat (by omega)]
    omega
  have hfits := fits_paged_iff h (f.geometry.exact (offset.toNat + buffer.length - 1))
  rw [if_neg hword, hlast]
  -- the last byte is checked before anything is sent, the first one with the first chunk
  by_cases hl : 0x00FFFFFF < f.geometry.exact (offset.toNat + buffer.length - 1) % 2 ^ 32
  · rw [if_neg (by rw [hfits]; omega)]
    exact ⟨fun _ => .inr (.inl hl), fun _ => ⟨rfl, rfl⟩⟩
  rw [if_pos (by rw [hfits]; omega)]
  obtain ⟨size, sizes, hsizes, hsize⟩ := exists_chunkSizes_cons hlen f.maxTransfer
  rw [hsizes]
  have hfirst := fits_paged_iff h (f.geometry.exact offset.toNat)
  by_cases hf : 0x00FFFFFF < f.geometry.exact offset.toNat % 2 ^ 32
  · have hnot : (Address.mk (.ofNat (f.geometry.exact offset.toNat))).fits f.geometry = false := by
      rw [← Bool.not_eq_true, hfirst]
      omega
    rw [readChunks_of_not_fits (h.ofOffset_eq _) hnot]
    exact ⟨fun _ => .inr (.inr hf), fun _ => ⟨rfl, rfl⟩⟩
  · have hsent := events_readChunks_ne_nil sizes (h.ofOffset_eq offset) (hfirst.2 (by omega))
      (take_ne_nil hsize hlen) b
    exact ⟨fun hrej => absurd hrej.2 hsent, fun hc => absurd hc (by omega)⟩

end Flash

/-- A range out of reach of the three address bytes is rejected as a whole when no page bit of its
last byte is lost, and otherwise exactly when it leaves the word, or the truncated address of its
last or first byte does not fit. Two flat offsets share a device address exactly when their exact
addresses agree modulo the word, which never happens when no page bit is lost. -/
theorem pagedRead_rejects_iff {build : Build} {config : Config} {b₀ : Board} {f : Flash}
    (hprobe : (Flash.probe build config b₀).value = .ok f)
    (hmode : f.geometry.mode = .pageMultiplied) :
    (∀ (b : Board) (offset : UInt32) (buffer : List UInt8), buffer ≠ [] →
      f.geometry.OutOfReach offset.toNat buffer.length →
        (f.Rejects b offset buffer ↔
          f.geometry.exact (offset.toNat + buffer.length - 1) < 2 ^ 32 ∨
          2 ^ 32 < offset.toNat + buffer.length ∨
          0x00FFFFFF < f.geometry.exact (offset.toNat + buffer.length - 1) % 2 ^ 32 ∨
          0x00FFFFFF < f.geometry.exact offset.toNat % 2 ^ 32)) ∧
    (∀ x y : UInt32, Address.ofOffset f.geometry x = Address.ofOffset f.geometry y ↔
      f.geometry.exact x.toNat % 2 ^ 32 = f.geometry.exact y.toNat % 2 ^ 32) ∧
    ∀ x y : UInt32, f.geometry.exact x.toNat < 2 ^ 32 → f.geometry.exact y.toNat < 2 ^ 32 →
      Address.ofOffset f.geometry x = Address.ofOffset f.geometry y → x = y := by
  have hpaged : f.geometry.Paged := by
    rcases (Flash.probe_within build config).value_of_ok hprobe with hlinear | hpaged
    · rw [Flash.geometry, hlinear] at hmode
      cases hmode
    · exact hpaged
  refine ⟨fun b offset buffer hbuffer hout => ?_, hpaged.ofOffset_eq_iff, fun x y hx hy h => ?_⟩
  · rw [hpaged.outOfReach_iff (List.length_pos_iff.2 hbuffer)] at hout
    rw [Flash.read_rejects_iff hpaged b offset hbuffer]
    constructor
    · exact .inr
    · rintro (hlast | h)
      · rw [Nat.mod_eq_of_lt hlast]
        omega
      · exact h
  · rw [hpaged.ofOffset_eq_iff, Nat.mod_eq_of_lt hx, Nat.mod_eq_of_lt hy] at h
    exact UInt32.toNat_inj.1 (hpaged.exact_injective h)

/-! ## A read from the wrong page -/

/-- A board with an AT45DB161D, which keeps its pages of 528 bytes. -/
def Board.at45db161d : Board :=
  { Board.blank with id := [0x1F, 0x26], dataflashStatus := .ofBytes #[0xAC] }

/-- That device, identified under the standard settings. -/
def Flash.at45db161d : Flash where
  descriptor :=
    { manufacturer := 0x1F, family := 0x20, interface := .dataflash, part := none
      geometry := { mode := .pageMultiplied, pages := 4096, pageSize := 528, fieldWidth := 10 } }
  maxTransfer := 0x10000

theorem probe_at45db161d : (Flash.probe .standard .standard .at45db161d).value = .ok .at45db161d :=
  Run.eq_ok_of_toOption (by decide +kernel)

/-- Page `2 ^ 22` is out of reach, and what is read there is page 0. -/
theorem pagedRead_aliased :
    (Flash.probe .standard .standard .at45db161d).value = .ok .at45db161d ∧
    Flash.at45db161d.geometry.OutOfReach (UInt32.toNat 2214592512) 16 ∧
    ¬ Flash.at45db161d.Rejects .at45db161d 2214592512 (List.replicate 16 0x5A) ∧
    (Flash.at45db161d.read 2214592512 (List.replicate 16 0x5A) .at45db161d).value.buffer =
      Board.at45db161d.memory.readRange 0 16 ∧
    Address.ofOffset Flash.at45db161d.geometry 2214592512 =
      Address.ofOffset Flash.at45db161d.geometry 0 := by
  refine ⟨probe_at45db161d, ⟨2214592512, by decide, by decide, .inr (by decide)⟩, ?_, ?_, by rfl⟩
  · intro h
    exact absurd h.2 (by decide +kernel)
  · decide +kernel

theorem pagedRead_rejects_iff_at45db161d :
    (Flash.probe .standard .standard .at45db161d).value = .ok .at45db161d ∧
    Flash.at45db161d.geometry.mode = .pageMultiplied ∧
    Flash.at45db161d.Rejects .at45db161d 2162688000 (List.replicate 16 0x5A) :=
  ⟨probe_at45db161d, rfl,
    ((pagedRead_rejects_iff probe_at45db161d rfl).1 .at45db161d 2162688000 (List.replicate 16 0x5A)
      (by simp) ⟨2162688000, by decide, by decide, .inr (by decide)⟩).2 (.inl (by decide))⟩

end FlashBoot
