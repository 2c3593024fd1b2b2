import FlashBoot.Board.Setup
import FlashBoot.Proofs.Flash.Read

/-!
# Linear reads copy the array

`linearRead_copies`: on a board without faults whose device decodes as many address bytes as are
sent, a read of a linear device is one plain copy (`Flash.Copies`). Its chunks are addressed without
a gap and without wrapping around, up to the last byte the address bytes reach, and what is read
does not depend on how much is read at once.
-/

namespace FlashBoot

/-- The device behind a descriptor, read in transactions of at most `limit` bytes, and of at least
one. -/
def Descriptor.flash (d : Descriptor) (limit : Nat) : Flash := ⟨d, max limit 1⟩

/-- What reading into `buffer` does on `b` when the device is linear. -/
structure Flash.Copies (f : Flash) (b : Board) (offset : UInt32) (buffer : List UInt8) : Prop where
  /-- Reading nothing succeeds at every offset, and sends nothing. -/
  empty : buffer = [] →
    (f.read offset buffer b).value = ⟨.ok (), []⟩ ∧ (f.read offset buffer b).events = []
  /-- What ends out of reach is refused before anything is sent. -/
  beyond : buffer ≠ [] → f.geometry.reach < offset.toNat + buffer.length →
    (f.read offset buffer b).value = ⟨.error (.error .outOfBounds), buffer⟩ ∧
    (f.read offset buffer b).events = []
  /-- Everything else is copied. -/
  copied : offset.toNat + buffer.length ≤ f.geometry.reach →
    (f.read offset buffer b).value = ⟨.ok (), b.memory.readRange offset.toNat buffer.length⟩
  /-- It takes one fast read for each chunk. -/
  events : offset.toNat + buffer.length ≤ f.geometry.reach →
    (f.read offset buffer b).events =
      (List.range (f.chunkCount buffer.length)).map fun k =>
        .fetched (f.geometry.fastRead (offset.toNat + k * f.maxTransfer))
          (f.chunkLength buffer.length k)
  /-- The device is asked for the chunk that the buffer wants next. -/
  address : offset.toNat + buffer.length ≤ f.geometry.reach →
    ∀ k, k * f.maxTransfer < buffer.length →
      b.readAddress (f.geometry.fastRead (offset.toNat + k * f.maxTransfer)) =
        offset.toNat + k * f.maxTransfer

namespace Flash

variable {f : Flash} {b : Board}

theorem linearReads_eq (hmax : 0 < f.maxTransfer) {start count : Nat}
    (h : start + count ≤ f.geometry.reach) :
    f.linearReads start count =
      (List.range (f.chunkCount count)).map fun k =>
        .fetched (f.geometry.fastRead (start + k * f.maxTransfer)) (f.chunkLength count k) := by
  rw [linearReads, if_neg (by omega), chunks_eq hmax, List.map_map]
  rfl

theorem read_goes_self (hmode : f.geometry.mode = .linear) (hfaults : b.faults = [])
    (hb : b.fourByte = f.geometry.fourByte) (offset : UInt32) (buffer : List UInt8) :
    Drive.Goes (f.read offset buffer) b (b.memory.fetch f.geometry.reach offset buffer) b
      (f.linearReads offset.toNat buffer.length) := by
  have hread := read_goes hb hmode offset buffer
  rwa [Board.quiet_eq hfaults] at hread

theorem read_copies (hmax : 0 < f.maxTransfer) (hmode : f.geometry.mode = .linear)
    (hfaults : b.faults = []) (hb : b.fourByte = f.geometry.fourByte) (offset : UInt32)
    (buffer : List UInt8) : f.Copies b offset buffer := by
  obtain ⟨hvalue, -, hevents⟩ := read_goes_self hmode hfaults hb offset buffer
  refine ⟨fun hempty => ?_, fun hne hbeyond => ?_, fun hreach => ?_, fun hreach => ?_,
    fun hreach k hk => ?_⟩
  · subst hempty
    rw [hvalue, hevents]
    exact ⟨rfl, by simp [linearReads, chunkSizes, chunksFrom]⟩
  · rw [hvalue, hevents]
    exact ⟨if_pos ⟨hne, hbeyond⟩, if_pos hbeyond⟩
  · rw [hvalue]
    exact if_neg fun h => absurd h.2 (by omega)
  · rw [hevents, linearReads_eq hmax hreach]
  · exact readAddress_fastRead hb (by omega)

end Flash

/-- A read of a linear device is a plain copy, however it is split. -/
theorem linearRead_copies {d : Descriptor} {b : Board} (hmode : d.geometry.mode = .linear)
    (hfaults : b.faults = []) (hbytes : b.fourByte = d.geometry.fourByte) (offset : UInt32)
    (buffer : List UInt8) :
    (∀ limit, (d.flash limit).Copies b offset buffer) ∧
    ∀ limit limit', ((d.flash limit).read offset buffer b).value =
      ((d.flash limit').read offset buffer b).value := by
  have hvalue : ∀ limit, ((d.flash limit).read offset buffer b).value =
      b.memory.fetch d.geometry.reach offset buffer :=
    fun limit =>
      (Flash.read_goes_self (f := d.flash limit) hmode hfaults hbytes offset buffer).value
  refine ⟨fun limit => ?_, fun limit limit' => (hvalue limit).trans (hvalue limit').symm⟩
  have hmax : 0 < (d.flash limit).maxTransfer := show 0 < max limit 1 by omega
  exact Flash.read_copies hmax hmode hfaults hbytes offset buffer

/-- A linear device that is sent four address bytes. -/
def Descriptor.large : Descriptor :=
  .ofFamily (.ofBytes [0x20, 0x20]) (.linear 32768 256) .nor

/-- A board whose device decodes them. -/
def Board.large : Board := { Board.blank with fourByte := true }

/-- The last six bytes of the address space, in two chunks or one by one. -/
theorem linearRead_copies_large :
    Descriptor.large.geometry.mode = .linear ∧ Board.large.faults = [] ∧
    Board.large.fourByte = Descriptor.large.geometry.fourByte ∧
    ((Descriptor.large.flash 4).read 0xFFFFFFFA (List.replicate 6 0) .large).events =
      [.fetched [0x0B, 0xFF, 0xFF, 0xFF, 0xFA] 4, .fetched [0x0B, 0xFF, 0xFF, 0xFF, 0xFE] 2] ∧
    ((Descriptor.large.flash 4).read 0xFFFFFFFA (List.replicate 6 0) .large).value =
      ((Descriptor.large.flash 0).read 0xFFFFFFFA (List.replicate 6 0) .large).value := by
  have hbytes : Board.large.fourByte = Descriptor.large.geometry.fourByte := by decide
  have h := linearRead_copies (d := .large) (b := .large) rfl rfl hbytes 0xFFFFFFFA
    (List.replicate 6 0)
  exact ⟨rfl, rfl, hbytes, (h.1 4).events (by decide), h.2 4 0⟩

end FlashBoot
