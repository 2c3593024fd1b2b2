import FlashBoot.Proofs.Bus
import FlashBoot.Proofs.Flash.Chunks
import FlashBoot.Proofs.Geometry.Address

/-!
# What a read returns

* `readChunks_goes`: on a board without faults, the chunks of a read are one fast read each, every
  one addressed on its own, and what the device answers to them stands in the buffer in this order.
* `Flash.read_goes`: so a read of a linear device is either out of bounds and changes nothing, or it
  fills the buffer with the bytes of the range (`Memory.fetch`).
-/

namespace FlashBoot

/-! ## Chunks -/

theorem Memory.readRange_append (m : Memory) (address n k : Nat) :
    m.readRange address n ++ m.readRange (address + n) k = m.readRange address (n + k) := by
  simp [readRange, List.range_add, Nat.add_assoc]

theorem Memory.getElem?_readRange (m : Memory) (address : Nat) {n i : Nat} (h : i < n) :
    (m.readRange address n)[i]? = some (m.read (address + i)) := by
  simp [readRange, h]

/-- What the device of a board answers to the fast read of `count` bytes from an address, in the
framing of a geometry. -/
def Board.answer (b : Board) (g : Geometry) (address count : Nat) : List UInt8 :=
  b.memory.readRange (b.readAddress (g.fastRead address)) count

@[simp] theorem Board.length_answer (b : Board) (g : Geometry) (address count : Nat) :
    (b.answer g address count).length = count :=
  Memory.length_readRange ..

theorem Board.answer_eq {b : Board} {g : Geometry} (hb : b.fourByte = g.fourByte) {address : Nat}
    (h : address < g.reach) (count : Nat) :
    b.answer g address count = b.memory.readRange address count := by
  rw [answer, readAddress_fastRead hb h]

/-- Reading chunk by chunk is reading at once. -/
theorem Board.flatMap_answer {b : Board} {g : Geometry} (hb : b.fourByte = g.fourByte)
    {sizes : List Nat} (hpos : ∀ s ∈ sizes, 0 < s) {start : Nat}
    (h : start + sizes.sum ≤ g.reach) :
    ((chunksFrom sizes start).flatMap fun c => b.answer g c.1 c.2) =
      b.memory.readRange start sizes.sum := by
  induction sizes generalizing start with
  | nil => rfl
  | cons size sizes ih =>
    have hsize := hpos size List.mem_cons_self
    rw [List.sum_cons] at h ⊢
    rw [chunksFrom, List.flatMap_cons, answer_eq hb (show start < g.reach by omega),
      ih (fun s hs => hpos s (List.mem_cons_of_mem _ hs)) (by omega), Memory.readRange_append]

namespace Flash

variable {f : Flash} {offset : UInt32} {address : Address} {chunk buffer : List UInt8}

theorem readChunk_of_not_fits (h : Address.ofOffset f.geometry offset = .ok address)
    (hfits : address.fits f.geometry = false) (chunk : List UInt8) :
    f.readChunk offset chunk = pure ⟨.error (.error .outOfBounds), chunk⟩ := by
  simp only [readChunk, h, Address.readCommand?_eq_none_iff.2 hfits]

/-- What is logged of a chunk that was sent. -/
def chunkMessage (offset : UInt32) (address : Address) (size : Nat) :
    Except Failure Unit → Message
  | .ok _ => .chunkRead offset address.value size
  | .error _ => .chunkFailed offset

/-- A chunk whose address fits is one fast read. -/
theorem readChunk_of_fits (h : Address.ofOffset f.geometry offset = .ok address)
    (hfits : address.fits f.geometry = true) (chunk : List UInt8) :
    f.readChunk offset chunk = (do
      let transfer ← Bus.read (f.geometry.fastRead address.value.toNat) chunk
      Drive.log (chunkMessage offset address chunk.length transfer.result)
      return transfer) := by
  simp only [readChunk, h, readCommand?_eq hfits]
  rfl

/-- On a board without faults the chunk holds the answer of the device. -/
theorem readChunk_goes {n : Nat} (h : Address.ofOffset f.geometry offset = .ok ⟨.ofNat n⟩)
    (hreach : n < f.geometry.reach) (hchunk : chunk ≠ []) (b : Board) :
    Drive.Goes (f.readChunk offset chunk) b.quiet
      ⟨.ok (), b.answer f.geometry n chunk.length⟩ b.quiet
      [.fetched (f.geometry.fastRead n) chunk.length] := by
  have hn : (UInt32.ofNat n).toNat = n := toNat_ofNat (by have := f.geometry.reach_le; omega)
  rw [readChunk_of_fits h (fits_iff.2 (hn.symm ▸ hreach)), hn]
  exact (Bus.read_goes (f.geometry.fastRead_ne_nil n) hchunk b).bind
    (Drive.Goes.log_bind (.pure _ _))

theorem readChunks_goes {addr : Nat → Nat} (sizes : List Nat) (start : Nat) (buffer : List UInt8)
    (hfills : Fills sizes buffer) (haddr : f.geometry.Addresses addr start buffer.length)
    (b : Board) :
    Drive.Goes (f.readChunks sizes (.ofNat start) buffer) b.quiet
      ⟨.ok (), (chunksFrom sizes start).flatMap fun c => b.answer f.geometry (addr c.1) c.2⟩
      b.quiet ((chunksFrom sizes start).map fun c => .fetched (f.geometry.fastRead (addr c.1)) c.2)
    := by
  induction sizes generalizing start buffer with
  | nil =>
    obtain rfl := List.eq_nil_of_length_eq_zero hfills.sum.symm
    exact .pure _ _
  | cons size sizes ih =>
    have hsize := hfills.pos size List.mem_cons_self
    have hdrop := hfills.length_drop
    obtain ⟨hstart, hreach⟩ := haddr start (Nat.le_refl start) (by omega)
    have hfirst := readChunk_goes hstart hreach hfills.take_ne_nil b
    rw [hfills.length_take] at hfirst
    -- the offset may wrap after the last chunk, so the rest starts at a number, not at a word
    have hrest := ih (start + size) (buffer.drop size) hfills.drop
      fun x hx hx' => haddr x (by omega) (by omega)
    rw [UInt32.ofNat_add] at hrest
    exact hfirst.bind (hrest.map _)

/-! ## Reads -/

/-- A read of something is refused, or it is the reads of its chunks. -/
theorem read_eq (hbuffer : buffer ≠ [])
    (h : Address.ofOffset f.geometry (offset + .ofNat (buffer.length - 1)) = .ok address) :
    f.read offset buffer =
      if 2 ^ 32 < offset.toNat + buffer.length then
        pure ⟨.error (.error .outOfBounds), buffer⟩
      else if address.fits f.geometry then
        f.readChunks (chunkSizes buffer.length f.maxTransfer) offset buffer
      else (do
        Drive.log (.notAddressable (offset + .ofNat (buffer.length - 1)))
        return ⟨.error (.error .outOfBounds), buffer⟩) := by
  simp only [read, List.isEmpty_iff, hbuffer, ↓reduceIte, h, size_eq]

end Flash

/-- What reading into a buffer gives, when `reach` addresses can be told apart. -/
def Memory.fetch (m : Memory) (reach : Nat) (offset : UInt32) (buffer : List UInt8) : Transfer :=
  if buffer ≠ [] ∧ reach < offset.toNat + buffer.length then
    ⟨.error (.error .outOfBounds), buffer⟩
  else ⟨.ok (), m.readRange offset.toNat buffer.length⟩

namespace Flash

variable {f : Flash}

/-- A read whose offsets all have addresses in reach is the fast reads of its chunks. -/
theorem read_goes_of_addresses {addr : Nat → Nat} {offset : UInt32} {buffer : List UInt8}
    (hword : offset.toNat + buffer.length ≤ 2 ^ 32)
    (haddr : f.geometry.Addresses addr offset.toNat buffer.length) (b : Board) :
    Drive.Goes (f.read offset buffer) b.quiet
      ⟨.ok (), (chunksFrom (chunkSizes buffer.length f.maxTransfer) offset.toNat).flatMap fun c =>
        b.answer f.geometry (addr c.1) c.2⟩ b.quiet
      ((chunksFrom (chunkSizes buffer.length f.maxTransfer) offset.toNat).map fun c =>
        .fetched (f.geometry.fastRead (addr c.1)) c.2) := by
  by_cases hbuffer : buffer = []
  · subst hbuffer
    have hnone : chunkSizes 0 f.maxTransfer = [] := by simp [chunkSizes]
    rw [List.length_nil, hnone]
    exact .pure _ _
  have hlen : 0 < buffer.length := List.length_pos_iff.2 hbuffer
  have hlast : offset + .ofNat (buffer.length - 1) =
      UInt32.ofNat (offset.toNat + (buffer.length - 1)) := by
    rw [UInt32.ofNat_add, UInt32.ofNat_toNat]
  obtain ⟨hoffset, hreach⟩ := haddr (offset.toNat + (buffer.length - 1)) (by omega) (by omega)
  have hle := f.geometry.reach_le
  have hfits : (Address.mk (.ofNat (addr (offset.toNat + (buffer.length - 1))))).fits f.geometry =
      true := by
    rw [fits_iff, toNat_ofNat (by omega)]
    exact hreach
  rw [read_eq hbuffer (hlast ▸ hoffset), if_neg (by omega), if_pos hfits]
  have hchunks := readChunks_goes _ offset.toNat buffer (fills_chunkSizes buffer f.maxTransfer)
    haddr b
  rw [UInt32.ofNat_toNat] at hchunks
  exact hchunks

/-- The fast reads of a linear device for `count` bytes from `start` on, none when the range is out
of reach. -/
def linearReads (f : Flash) (start count : Nat) : List Event :=
  if f.geometry.reach < start + count then []
  else (chunksFrom (chunkSizes count f.maxTransfer) start).map fun c =>
    .fetched (f.geometry.fastRead c.1) c.2

theorem read_goes {b : Board} (hb : b.fourByte = f.geometry.fourByte)
    (hmode : f.geometry.mode = .linear) (offset : UInt32) (buffer : List UInt8) :
    Drive.Goes (f.read offset buffer) b.quiet
      (b.memory.fetch f.geometry.reach offset buffer) b.quiet
      (f.linearReads offset.toNat buffer.length) := by
  by_cases hbuffer : buffer = []
  · subst hbuffer
    have hnone : f.linearReads offset.toNat 0 = [] := by simp [linearReads, chunkSizes, chunksFrom]
    rw [List.length_nil, hnone]
    exact .pure _ _
  have hlen : 0 < buffer.length := List.length_pos_iff.2 hbuffer
  have hle := f.geometry.reach_le
  by_cases hreach : f.geometry.reach < offset.toNat + buffer.length
  · rw [Memory.fetch, if_pos ⟨hbuffer, hreach⟩, linearReads, if_pos hreach,
      read_eq hbuffer (Address.ofOffset_linear hmode _)]
    by_cases hword : 2 ^ 32 < offset.toNat + buffer.length
    · rw [if_pos hword]
      exact .pure _ _
    · have hlast : ¬ (Address.mk (offset + .ofNat (buffer.length - 1))).fits f.geometry = true := by
        rw [fits_iff, toNat_add_ofNat (by omega)]
        omega
      rw [if_neg hword, if_neg hlast]
      exact Drive.Goes.log_bind (.pure _ _)
  · rw [Memory.fetch, if_neg fun h => hreach h.2, linearReads, if_neg hreach]
    have hread := read_goes_of_addresses (by omega)
      (Geometry.addresses_linear hmode (show offset.toNat + buffer.length ≤ _ by omega)) b
    have hsum := sum_chunkSizes buffer.length f.maxTransfer
    have hanswers := b.flatMap_answer hb (fun s hs => pos_of_mem_chunkSizes hs)
      (show offset.toNat + (chunkSizes buffer.length f.maxTransfer).sum ≤ f.geometry.reach by omega)
    rw [hsum] at hanswers
    exact hread.of_eq (congrArg (Transfer.mk _) hanswers)

end Flash

end FlashBoot
