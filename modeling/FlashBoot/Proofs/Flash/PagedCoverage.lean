import FlashBoot.Proofs.Flash.CheckedRead
import FlashBoot.Proofs.Flash.PagedRead

/-!
# What page-multiplied reads cover

A DataFlash goes on from the last byte of a page to the first one of the next page
(`Geometry.next`), so a fast read of some bytes reads what lies behind its address in flat offsets
(`Geometry.Paged.continuous_exact`), wherever its chunk starts in a page.

* `pagedRead_covers`: a read inside the array sends one fast read for each chunk, and these cover
  the offsets of the range once each and in order (`Flash.Covers`).
* `pagedRead_fourByte`: a board that decodes four address bytes does not understand the three and
  the dummy byte that are sent to a DataFlash, and answers from elsewhere.
-/

namespace FlashBoot

namespace Geometry

/-! ## Continuous array reads -/

/-- What a DataFlash reads after the byte at an address: the next byte of the page, behind the last
one the next page, and behind the last page the first one. -/
def next (g : Geometry) (address : Nat) : Nat :=
  if address % 2 ^ g.fieldWidth.toNat + 1 < g.pageSize.toNat then address + 1
  else (address / 2 ^ g.fieldWidth.toNat + 1) % g.pages.toNat * 2 ^ g.fieldWidth.toNat

/-- The addresses of the bytes that are read one after another from an address on. -/
def continuous (g : Geometry) (address : Nat) : Nat → List Nat
  | 0 => []
  | count + 1 => address :: g.continuous (g.next address) count

/-- How many bytes the array has. -/
def size (g : Geometry) : Nat := g.pages.toNat * g.pageSize.toNat

theorem fastRead_of_threeByte {g : Geometry} (h : g.fourByte = false) (address : Nat) :
    g.fastRead address = Opcode.fastRead.byte :: addressBytes 3 address ++ [0x00] := by
  rw [fastRead, h]
  rfl

variable {g : Geometry} {x count : Nat}

/-- Offsets of one page have addresses that lie one behind the other. -/
theorem exact_add {j : Nat} (hpage : (x + j) / g.pageSize.toNat = x / g.pageSize.toNat) :
    g.exact (x + j) = g.exact x + j := by
  have hx := Nat.div_add_mod' x g.pageSize.toNat
  have hj := Nat.div_add_mod' (x + j) g.pageSize.toNat
  rw [hpage] at hj
  rw [exact, exact, hpage]
  omega

namespace Paged

theorem div_lt (h : g.Paged) (hx : x < g.size) : x / g.pageSize.toNat < g.pages.toNat :=
  (Nat.div_lt_iff_lt_mul h.pos).2 hx

theorem exact_lt (h : g.Paged) (hx : x < g.size) :
    g.exact x < g.pages.toNat * 2 ^ g.fieldWidth.toNat := by
  have hdiv := h.div_lt hx
  rw [← h.exact_div] at hdiv
  exact (Nat.div_lt_iff_lt_mul (Nat.two_pow_pos _)).1 hdiv

/-- The device goes on to the next flat offset, be it in the page or the first of the next page. -/
theorem next_exact (h : g.Paged) (hx : x + 1 < g.size) : g.next (g.exact x) = g.exact (x + 1) := by
  have hx' := Nat.div_add_mod' x g.pageSize.toNat
  have hmod := Nat.mod_lt x h.pos
  rw [next, h.exact_mod, h.exact_div]
  by_cases hbyte : x % g.pageSize.toNat + 1 < g.pageSize.toNat
  · have hsame : (x + 1) / g.pageSize.toNat = x / g.pageSize.toNat := by
      have hnext : x + 1 = x % g.pageSize.toNat + 1 + x / g.pageSize.toNat * g.pageSize.toNat := by
        omega
      rw [hnext, Nat.add_mul_div_right _ _ h.pos, Nat.div_eq_of_lt hbyte, Nat.zero_add]
    rw [if_pos hbyte, exact_add hsame]
  · have hnext : x + 1 = (x / g.pageSize.toNat + 1) * g.pageSize.toNat := by
      rw [Nat.succ_mul]
      omega
    have hdiv : (x + 1) / g.pageSize.toNat = x / g.pageSize.toNat + 1 := by
      rw [hnext, Nat.mul_div_cancel _ h.pos]
    have hlt := h.div_lt hx
    rw [hdiv] at hlt
    rw [if_neg hbyte, Nat.mod_eq_of_lt hlt, exact, hdiv, hnext, Nat.mul_mod_left]
    rfl

/-- A continuous array read covers the flat offsets from its own one on. -/
theorem continuous_exact (h : g.Paged) (hx : x + count ≤ g.size) :
    (g.continuous (g.exact x) count).map g.flat = List.range' x count := by
  induction count generalizing x with
  | zero => rfl
  | succ count ih =>
    rw [continuous, List.map_cons, h.flat_exact, List.range'_succ]
    rcases Nat.eq_zero_or_pos count with rfl | hcount
    · rfl
    · rw [h.next_exact (by omega), ih (by omega)]

theorem flatMap_continuous (h : g.Paged) (sizes : List Nat) (hx : x + sizes.sum ≤ g.size) :
    ((chunksFrom sizes x).flatMap fun c => (g.continuous (g.exact c.1) c.2).map g.flat) =
      List.range' x sizes.sum := by
  induction sizes generalizing x with
  | nil => rfl
  | cons size sizes ih =>
    rw [List.sum_cons] at hx ⊢
    rw [chunksFrom, List.flatMap_cons, h.continuous_exact (by omega), ih (by omega),
      List.range'_append_1]

end Paged

/-- Page-multiplied addresses that stay below the reach of three address bytes. -/
structure PagedArray (g : Geometry) : Prop extends g.Paged where
  array : g.pages.toNat * 2 ^ g.fieldWidth.toNat ≤ 2 ^ 24

namespace PagedArray

variable {j : Nat}

theorem size_le (h : g.PagedArray) : g.size ≤ 2 ^ 24 :=
  Nat.le_trans (Nat.mul_le_mul_left g.pages.toNat h.page) h.array

theorem exact_lt_reach (h : g.PagedArray) (hx : x < g.size) : g.exact x < g.reach := by
  rw [h.reach_eq]
  exact Nat.lt_of_lt_of_le (h.exact_lt hx) h.array

theorem addresses (h : g.PagedArray) (hx : x + count ≤ g.size) :
    g.Addresses g.exact x count := by
  intro y _ hy
  have hsize := h.size_le
  refine ⟨?_, h.exact_lt_reach (by omega)⟩
  rw [h.ofOffset_eq, toNat_ofNat (by omega)]

/-- The offsets of one page translate to addresses that lie one behind the other. -/
theorem exists_ofOffset_add (h : g.PagedArray) (hj : x + j < g.size)
    (hpage : (x + j) / g.pageSize.toNat = x / g.pageSize.toNat) :
    ∃ address, Address.ofOffset g (.ofNat (x + j)) = .ok address ∧
      address.value.toNat = g.exact x + j := by
  have hsize := h.size_le
  have hreach := h.exact_lt_reach hj
  have hle := g.reach_le
  refine ⟨⟨.ofNat (g.exact (x + j))⟩, ?_, ?_⟩
  · rw [h.ofOffset_eq, toNat_ofNat (by omega)]
  · rw [toNat_ofNat (by omega), exact_add hpage]

end PagedArray

end Geometry

/-- The arrays of the table end below the reach of three address bytes. -/
theorem Density.pagedArray {d : Density} (h : d ∈ table) : (d.geometry false).PagedArray := by
  have hall : ∀ d ∈ table,
      (d.geometry false).pages.toNat * 2 ^ (d.geometry false).fieldWidth.toNat ≤ 2 ^ 24 := by decide
  exact ⟨Density.paged h, hall d h⟩

/-! ## Reads -/

/-- The page-multiplied address of the `k`-th chunk of a read from `start` on. -/
def Flash.chunkAddress (f : Flash) (start k : Nat) : Nat :=
  f.geometry.exact (start + k * f.maxTransfer)

/-- What reading into `buffer` does on `b` when the range lies in the array of a DataFlash. -/
structure Flash.Covers (f : Flash) (b : Board) (offset : UInt32) (buffer : List UInt8) : Prop where
  /-- It makes no difference whether the bounds of the array are checked first. -/
  within : f.readWithin offset buffer = f.read offset buffer
  result : (f.read offset buffer b).value.result = .ok ()
  length : (f.read offset buffer b).value.buffer.length = buffer.length
  /-- It takes one fast read for each chunk, with three address bytes and a dummy byte. -/
  events : (f.read offset buffer b).events =
    (List.range (f.chunkCount buffer.length)).map fun k =>
      .fetched (Opcode.fastRead.byte :: addressBytes 3 (f.chunkAddress offset.toNat k) ++ [0x00])
        (f.chunkLength buffer.length k)
  /-- The address of a chunk fits these bytes. It names a byte of a page of the array, the one at
  the offset where the chunk starts. -/
  address : ∀ k, k * f.maxTransfer < buffer.length →
    f.chunkAddress offset.toNat k < 2 ^ 24 ∧
    f.chunkAddress offset.toNat k / 2 ^ f.geometry.fieldWidth.toNat < f.geometry.pages.toNat ∧
    f.chunkAddress offset.toNat k % 2 ^ f.geometry.fieldWidth.toNat < f.geometry.pageSize.toNat ∧
    f.geometry.flat (f.chunkAddress offset.toNat k) = offset.toNat + k * f.maxTransfer
  /-- Read continuously, the chunks cover the range once and in order. -/
  covered : ((List.range (f.chunkCount buffer.length)).flatMap fun k =>
      (f.geometry.continuous (f.chunkAddress offset.toNat k)
        (f.chunkLength buffer.length k)).map f.geometry.flat) =
    List.range' offset.toNat buffer.length
  /-- A device that decodes three address bytes answers what is stored from there on. -/
  stored : b.fourByte = false → ∀ k j, j < f.chunkLength buffer.length k →
    (f.read offset buffer b).value.buffer[k * f.maxTransfer + j]? =
      some (b.memory.read (f.chunkAddress offset.toNat k + j))
  /-- In a chunk that lies in one page, this is where the offset of each byte translates to. -/
  onePage : ∀ k j, j < f.chunkLength buffer.length k →
    (offset.toNat + k * f.maxTransfer + (f.chunkLength buffer.length k - 1)) /
        f.geometry.pageSize.toNat =
      (offset.toNat + k * f.maxTransfer) / f.geometry.pageSize.toNat →
    ∃ address, Address.ofOffset f.geometry (.ofNat (offset.toNat + k * f.maxTransfer + j)) =
        .ok address ∧
      address.value.toNat = f.chunkAddress offset.toNat k + j

theorem Descriptor.exists_capacity {d : Descriptor} (hpart : d.part = none)
    (hsize : d.geometry.size < 2 ^ 32) :
    ∃ capacity, d.capacity = .ok capacity ∧ capacity.toNat = d.geometry.size := by
  refine ⟨d.geometry.pages * d.geometry.pageSize, ?_, ?_⟩
  · rw [capacity, hpart]
    exact Word.mul_eq_ok_iff.2 ⟨size_eq ▸ hsize, rfl⟩
  · rw [UInt32.toNat_mul]
    exact Nat.mod_eq_of_lt hsize

/-- The capacity of a device that is no part is the size of its geometry. -/
theorem Descriptor.toNat_capacity {d : Descriptor} {capacity : UInt32} (hpart : d.part = none)
    (h : d.capacity = .ok capacity) : capacity.toNat = d.geometry.size := by
  rw [Descriptor.capacity, hpart] at h
  obtain ⟨hword, rfl⟩ := Word.mul_eq_ok_iff.1 h
  rw [UInt32.toNat_mul]
  exact Nat.mod_eq_of_lt hword

namespace Flash

variable {f : Flash} {b : Board} {offset : UInt32} {buffer : List UInt8}

/-- The `j`-th byte of the `k`-th chunk is the one stored `j` bytes behind the chunk's address. -/
theorem getElem?_answers (h : f.geometry.PagedArray) (hb : b.fourByte = false)
    (hmax : 0 < f.maxTransfer) {start count k j : Nat} (hrange : start + count ≤ f.geometry.size)
    (hj : j < f.chunkLength count k) :
    ((chunksFrom (chunkSizes count f.maxTransfer) start).flatMap fun c =>
      b.answer f.geometry (f.geometry.exact c.1) c.2)[k * f.maxTransfer + j]? =
      some (b.memory.read (f.chunkAddress start k + j)) := by
  have hlen : j < min f.maxTransfer (count - k * f.maxTransfer) := hj
  have hreach := h.exact_lt_reach (x := start + k * f.maxTransfer) (by omega)
  rw [getElem?_flatMap_chunks (fun c => b.length_answer ..) (by omega) (by omega),
    Board.answer_eq (hb.trans h.threeByte.symm) hreach, Memory.getElem?_readRange _ _ hlen]
  rfl

theorem read_covers (h : f.geometry.PagedArray) (hpart : f.descriptor.part = none)
    (hmax : 0 < f.maxTransfer) (hfaults : b.faults = [])
    (hrange : offset.toNat + buffer.length ≤ f.geometry.size) : f.Covers b offset buffer := by
  have hsize := h.size_le
  obtain ⟨capacity, hcapacity, hcount⟩ :=
    Descriptor.exists_capacity hpart (show f.geometry.size < 2 ^ 32 by omega)
  have hread := read_goes_of_addresses (by omega) (h.addresses hrange) b
  rw [Board.quiet_eq hfaults] at hread
  obtain ⟨hvalue, -, hevents⟩ := hread
  have hsum := sum_chunkSizes buffer.length f.maxTransfer
  refine ⟨readChecked_of_inside checksRange_checkSlice hcapacity (hcount.symm ▸ hrange), ?_, ?_,
    ?_, fun k hk => ?_, ?_, fun hb k j hj => ?_, fun k j hj hpage => ?_⟩
  · rw [hvalue]
  · rw [hvalue, length_flatMap_chunksFrom (fun c => b.length_answer ..), hsum]
  · rw [hevents, chunks_eq hmax, List.map_map]
    refine List.map_congr_left fun k _ => ?_
    rw [Function.comp_apply, Geometry.fastRead_of_threeByte h.threeByte]
    rfl
  · have hinside : offset.toNat + k * f.maxTransfer < f.geometry.size := by omega
    rw [← h.reach_eq, chunkAddress, h.exact_div, h.exact_mod, h.flat_exact]
    exact ⟨h.exact_lt_reach hinside, h.div_lt hinside, Nat.mod_lt _ h.pos, rfl⟩
  · have hcovered := h.flatMap_continuous (chunkSizes buffer.length f.maxTransfer)
      (x := offset.toNat) (by omega)
    rw [hsum, chunks_eq hmax, List.flatMap_map] at hcovered
    exact hcovered
  · rw [hvalue]
    exact getElem?_answers h hb hmax hrange hj
  · have hlen : j < min f.maxTransfer (buffer.length - k * f.maxTransfer) := hj
    -- the page of a byte in between is that of the first and of the last one
    have hlow := Nat.div_le_div_right (c := f.geometry.pageSize.toNat)
      (show offset.toNat + k * f.maxTransfer ≤ offset.toNat + k * f.maxTransfer + j by omega)
    have hhigh := Nat.div_le_div_right (c := f.geometry.pageSize.toNat)
      (show offset.toNat + k * f.maxTransfer + j ≤
        offset.toNat + k * f.maxTransfer + (f.chunkLength buffer.length k - 1) by omega)
    rw [hpage] at hhigh
    exact h.exists_ofOffset_add (by omega) (by omega)

end Flash

/-- A read inside the array of an identified device with page-multiplied addresses covers its
range, however it is split. -/
theorem pagedRead_covers {build : Build} {config : Config} {b₀ : Board} {f : Flash}
    (hprobe : (Flash.probe build config b₀).value = .ok f)
    (hmode : f.geometry.mode = .pageMultiplied) :
    f.maxTransfer = max config.maxTransfer 1 ∧
    ∀ (b : Board) (offset : UInt32) (buffer : List UInt8), b.faults = [] →
      offset.toNat + buffer.length ≤ f.geometry.size → f.Covers b offset buffer := by
  have hknown := (Flash.probe_known build config).value_of_ok hprobe
  have hpart := hknown.descriptor.part hmode
  have hmax := hknown.maxTransfer
  obtain hlinear | ⟨d, hd, hg⟩ := hknown.descriptor.geometry
  · rw [Flash.geometry, hlinear] at hmode
    cases hmode
  have hgeometry : f.geometry = d.geometry false := hg
  have harray := Density.pagedArray hd
  rw [← hgeometry] at harray
  exact ⟨hmax, fun b offset buffer hfaults hrange =>
    Flash.read_covers harray hpart (by omega) hfaults hrange⟩

/-- The AT45DB161D on a board that decodes four address bytes. -/
def Board.fourByteAt45db161d : Board := { Board.at45db161d with fourByte := true }

/-- Such a board takes the dummy byte for an address byte: the byte at offset 1 has address 1, and
what is read is the byte at address 256. -/
theorem pagedRead_fourByte :
    (Flash.probe .standard .standard .fourByteAt45db161d).value = .ok .at45db161d ∧
    Flash.at45db161d.geometry.mode = .pageMultiplied ∧ Board.fourByteAt45db161d.faults = [] ∧
    UInt32.toNat 1 + 1 ≤ Flash.at45db161d.geometry.size ∧
    (Flash.at45db161d.read 1 [0x5A] .fourByteAt45db161d).value.buffer =
      [Board.fourByteAt45db161d.memory.read 256] ∧
    Board.fourByteAt45db161d.memory.read 256 ≠
      Board.fourByteAt45db161d.memory.read (Flash.at45db161d.chunkAddress 1 0 + 0) := by
  refine ⟨Run.eq_ok_of_toOption (by decide +kernel), rfl, rfl, by decide, ?_, ?_⟩
  · decide +kernel
  · decide +kernel

/-- Sixteen bytes across the end of the first page, in two chunks. -/
theorem pagedRead_covers_at45db161d :
    (Flash.probe .standard { Config.standard with maxTransfer := 10 } .at45db161d).value =
      .ok { Flash.at45db161d with maxTransfer := 10 } ∧
    Flash.at45db161d.geometry.mode = .pageMultiplied ∧ Board.at45db161d.faults = [] ∧
    (Flash.read { Flash.at45db161d with maxTransfer := 10 } 520 (List.replicate 16 0)
        .at45db161d).events =
      [.fetched [0x0B, 0x00, 0x02, 0x08, 0x00] 10, .fetched [0x0B, 0x00, 0x04, 0x02, 0x00] 6] := by
  have hprobe :
      (Flash.probe .standard { Config.standard with maxTransfer := 10 } .at45db161d).value =
        .ok { Flash.at45db161d with maxTransfer := 10 } :=
    Run.eq_ok_of_toOption (by decide +kernel)
  have hcovers := (pagedRead_covers hprobe rfl).2 .at45db161d 520 (List.replicate 16 0) rfl
    (by decide)
  exact ⟨hprobe, rfl, rfl, hcovers.events⟩

end FlashBoot
