import FlashBoot.Proofs.Device.Invariant
import FlashBoot.Proofs.Flash.PagedCoverage

/-!
# Reads that are checked against the array

A generic storage user reads through a check of the range against the array, which is the storage
library's own (`ChecksRange`). `boundedRead_accepts`: on an identified
device the two checks leave no gap. What the library lets pass is read like any other range, and the
driver's own check refuses it in one case only (`Flash.Beyond`): on a linear device with three
address bytes and an array that is larger than they reach.
-/

namespace FlashBoot

namespace Flash

/-! ## The reach of the address bytes -/

/-- The range ends behind the last byte that three address bytes reach. -/
structure Beyond (f : Flash) (offset : UInt32) (buffer : List UInt8) : Prop where
  nonempty : buffer ≠ []
  linear : f.geometry.mode = .linear
  pages : f.geometry.pages ≤ 16384
  reach : 2 ^ 24 < offset.toNat + buffer.length

variable {f : Flash} {offset : UInt32} {buffer : List UInt8}

theorem read_goes_of_beyond (h : f.Beyond offset buffer) (b : Board) :
    Drive.Goes (f.read offset buffer) b ⟨.error (.error .outOfBounds), buffer⟩ b [] := by
  rw [read_eq h.nonempty (Address.ofOffset_linear h.linear _)]
  have hlen := List.length_pos_iff.2 h.nonempty
  have hreach := h.reach
  split
  · exact .pure _ _
  · have hlast : ¬ (Address.mk (offset + .ofNat (buffer.length - 1))).fits f.geometry = true := by
      rw [fits_iff, toNat_add_ofNat (by omega), Geometry.reach,
        Geometry.fourByte_eq_false_iff.2 h.pages]
      simp only [Bool.false_eq_true, ↓reduceIte]
      omega
    rw [if_neg hlast]
    exact .log_bind (.pure _ _)

/-- Inside the array of a known device every other range has addresses in reach. -/
theorem exists_addresses {capacity : UInt32} (hknown : f.descriptor.Known)
    (hcapacity : f.descriptor.capacity = .ok capacity)
    (hrange : offset.toNat + buffer.length ≤ capacity.toNat) (hreach : ¬ f.Beyond offset buffer) :
    ∃ address, f.geometry.Addresses address offset.toNat buffer.length := by
  by_cases hbuffer : buffer = []
  · subst hbuffer
    exact ⟨id, fun x hx hx' => absurd hx (by rw [List.length_nil] at hx'; omega)⟩
  obtain hlinear | ⟨d, hd, hg⟩ := hknown.geometry
  · have hmode : f.geometry.mode = .linear := hlinear
    have hword := capacity.toNat_lt
    refine ⟨id, Geometry.addresses_linear hmode ?_⟩
    unfold Geometry.reach
    cases hbytes : f.geometry.fourByte with
    | true =>
      simp only [↓reduceIte]
      omega
    | false =>
      have hpages := Geometry.fourByte_eq_false_iff.1 hbytes
      exact Nat.not_lt.1 fun h => hreach ⟨hbuffer, hmode, hpages, h⟩
  · have harray := Density.pagedArray hd
    rw [← hg] at harray
    rw [Descriptor.toNat_capacity (hknown.part harray.mode) hcapacity] at hrange
    exact ⟨_, harray.addresses hrange⟩

theorem result_of_addresses {address : Nat → Nat} {b : Board} (hfaults : b.faults = [])
    (hword : offset.toNat + buffer.length ≤ 2 ^ 32)
    (h : f.geometry.Addresses address offset.toNat buffer.length) :
    (f.read offset buffer b).value.result = .ok () := by
  have hread := read_goes_of_addresses hword h b
  rw [Board.quiet_eq hfaults] at hread
  rw [hread.value]

/-! ## Checked reads -/

/-- What reading into `buffer` through the check does on `b`, the array having `capacity` bytes. -/
structure BoundedRead (f : Flash) (check : RangeCheck) (capacity : Nat) (b : Board)
    (offset : UInt32) (buffer : List UInt8) : Prop where
  /-- What ends outside of the array is refused. -/
  outside : capacity < offset.toNat + buffer.length →
    (f.readChecked check offset buffer b).value = ⟨.error (.error .outOfBounds), buffer⟩ ∧
      (f.readChecked check offset buffer b).events = []
  /-- Everything else is read as without the check. -/
  inside : offset.toNat + buffer.length ≤ capacity →
    f.readChecked check offset buffer b = f.read offset buffer b
  accepted : b.faults = [] → offset.toNat + buffer.length ≤ capacity →
    ¬ f.Beyond offset buffer → (f.readChecked check offset buffer b).value.result = .ok ()
  beyond : offset.toNat + buffer.length ≤ capacity → f.Beyond offset buffer →
    (f.readChecked check offset buffer b).value = ⟨.error (.error .outOfBounds), buffer⟩ ∧
      (f.readChecked check offset buffer b).events = []
  aligned : (f.readChecked check offset buffer b).value.result ≠ .error (.error .notAligned)

theorem result_read_ne_notAligned (f : Flash) (offset : UInt32) (buffer : List UInt8) (b : Board) :
    (f.read offset buffer b).value.result ≠ .error (.error .notAligned) := by
  intro h
  obtain ⟨code, hcode⟩ | hbounds | ⟨t, ht, -⟩ := (f.read_within offset buffer).value b _ h
  · cases hcode
  · cases hbounds
  · cases ht

theorem boundedRead {check : RangeCheck} {capacity : UInt32} (hcheck : ChecksRange check)
    (hknown : f.descriptor.Known) (hcapacity : f.descriptor.capacity = .ok capacity) (b : Board)
    (offset : UInt32) (buffer : List UInt8) :
    f.BoundedRead check capacity.toNat b offset buffer := by
  have hword := capacity.toNat_lt
  constructor
  case outside =>
    intro houtside
    rw [readChecked_of_outside hcheck hcapacity houtside]
    exact ⟨rfl, rfl⟩
  case inside =>
    intro hinside
    rw [readChecked_of_inside hcheck hcapacity hinside]
  case accepted =>
    intro hfaults hinside hreach
    rw [readChecked_of_inside hcheck hcapacity hinside]
    obtain ⟨address, haddress⟩ := exists_addresses hknown hcapacity hinside hreach
    exact result_of_addresses hfaults (by omega) haddress
  case beyond =>
    intro hinside hbeyond
    rw [readChecked_of_inside hcheck hcapacity hinside]
    exact ⟨(read_goes_of_beyond hbeyond b).value, (read_goes_of_beyond hbeyond b).events⟩
  case aligned =>
    by_cases hinside : offset.toNat + buffer.length ≤ capacity.toNat
    · rw [readChecked_of_inside hcheck hcapacity hinside]
      exact result_read_ne_notAligned f offset buffer b
    · rw [readChecked_of_outside hcheck hcapacity (Nat.not_le.1 hinside)]
      exact nofun

end Flash

/-! ## Small arrays -/

/-- A device that is no part has at most 16 MiB. -/
theorem Device.IdentifyPath.size_le {candidates : List Part} {id : JedecId}
    {status : DataflashStatus} {d : Descriptor} {es : List Event}
    (h : IdentifyPath candidates id status (.ok d) es) (hpart : d.part = none) :
    d.geometry.size ≤ 2 ^ 24 := by
  cases h with
  | part _ => cases hpart
  | fixed _ hlookup =>
    obtain hg | hg | ⟨hg, -⟩ := Family.initializer_cases hlookup
    · obtain rfl := Initializer.fixed.inj hg
      exact show (Geometry.linear 16384 256).size ≤ 2 ^ 24 by decide
    · obtain rfl := Initializer.fixed.inj hg
      exact show (Geometry.linear 346 256).size ≤ 2 ^ 24 by decide
    · cases hg
  | dataflash _ _ hg =>
    have hall : ∀ d ∈ Density.table, (d.geometry true).size ≤ 2 ^ 24 ∧
        (d.geometry false).size ≤ 2 ^ 24 := by decide
    obtain ⟨density, hmem, rfl⟩ := exists_density hg
    obtain ⟨hrounded, hown⟩ := hall density hmem
    cases status.powerOfTwo with
    | true => exact hrounded
    | false => exact hown

/-- **A checked read accepts what is in reach.** Outside of the array of an identified device the
check refuses, and inside it lets everything pass. Without faults what passes is read, unless it
ends behind the reach of three address bytes, which takes a part of more than 16 MiB. -/
theorem boundedRead_accepts {build : Build} {config : Config} {b₀ : Board} {f : Flash}
    {capacity : UInt32} {check : RangeCheck}
    (hprobe : (Flash.probe build config b₀).value = .ok f)
    (hcapacity : f.descriptor.capacity = .ok capacity) (hcheck : ChecksRange check) :
    (∀ b offset buffer, f.BoundedRead check capacity.toNat b offset buffer) ∧
    (f.descriptor.part = none ∨ capacity.toNat ≤ 2 ^ 24 →
      ∀ b offset buffer, b.faults = [] → offset.toNat + buffer.length ≤ capacity.toNat →
        (f.readChecked check offset buffer b).value.result = .ok ()) := by
  have hknown := ((Flash.probe_known build config).value_of_ok hprobe).descriptor
  have hread := Flash.boundedRead hcheck hknown hcapacity
  refine ⟨hread, fun hsmall b offset buffer hfaults hinside => ?_⟩
  have hle : capacity.toNat ≤ 2 ^ 24 := by
    obtain hpart | hle := hsmall
    · rw [Descriptor.toNat_capacity hpart hcapacity]
      exact (Device.identifyPath_of_ok (Flash.identify_of_probe hprobe).1).size_le hpart
    · exact hle
  refine (hread b offset buffer).accepted hfaults hinside fun hbeyond => ?_
  have hreach := hbeyond.reach
  omega

/-- A part of 32 MiB, with 512 sectors. -/
def Part.w25q256 : Part :=
  .ofIds "w25q256" 0xef4019 0 (64 * 1024) 512 {.sect4K, .dualRead, .quadRead}

/-- A board with such a part. -/
def Board.w25q256 : Board := { Board.blank with id := [0xEF, 0x40, 0x19] }

/-- That part, identified under the standard settings. -/
def Flash.w25q256 : Flash := ⟨.ofPart (.ofBytes [0xEF, 0x40, 0x19]) .w25q256, 0x10000⟩

/-- Its last bytes lie in the array, and in reach of no three address bytes. -/
theorem boundedRead_accepts_w25q256 :
    (Flash.probe .standard .standard .w25q256).value = .ok .w25q256 ∧
    Flash.w25q256.descriptor.capacity = .ok 0x2000000 ∧ ChecksRange checkSlice ∧
    (Flash.w25q256.readChecked checkSlice 0xFFFFF0 (List.replicate 16 0)
      .w25q256).value.result = .ok () ∧
    (Flash.w25q256.readChecked checkSlice 0x1FFFFF0 (List.replicate 16 0)
      .w25q256).value = ⟨.error (.error .outOfBounds), List.replicate 16 0⟩ := by
  have hprobe : (Flash.probe .standard .standard .w25q256).value = .ok .w25q256 :=
    Run.eq_ok_of_toOption (by decide +kernel)
  have hread := (boundedRead_accepts hprobe rfl checksRange_checkSlice).1 .w25q256
  refine ⟨hprobe, rfl, checksRange_checkSlice, ?_, ?_⟩
  · refine (hread 0xFFFFF0 (List.replicate 16 0)).accepted rfl (by decide) fun h => ?_
    exact absurd h.reach (by decide)
  · exact ((hread 0x1FFFFF0 (List.replicate 16 0)).beyond (by decide)
      ⟨by decide, rfl, by decide, by decide⟩).1

end FlashBoot
