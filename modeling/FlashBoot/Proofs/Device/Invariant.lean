import FlashBoot.Proofs.Catalog
import FlashBoot.Proofs.Device.Path
import FlashBoot.Proofs.Flash.PagedRead
import FlashBoot.Proofs.Image.Ways

/-!
# What an identified device is

A descriptor comes from a part, from a family with a fixed geometry, or from the density code of a
DataFlash. `Descriptor.Invariant` is what all three have in common: where the identifier went, how
the addressing mode, the interface and the part go together, and that the device has pages. It holds
of every device that identification finds (`Device.identify_invariant`). A device that is no part of
the board's own is also small: its reads take three address bytes, and its size is a word.

* `Family.initializer_cases` and `Density.tabled`, `Density.paged` are the facts about the tables.
* `Device.IdentifyPath.invariant` goes through the ways of identification.
-/

namespace FlashBoot

/-! ## The tables -/

/-- Pages of a size that needs no more than three address bytes, all of them together a word. -/
structure Geometry.Tabled (g : Geometry) : Prop where
  pages_pos : 1 ≤ g.pages
  pages_le : g.pages ≤ 16384
  pageSize_pos : 1 ≤ g.pageSize
  size : g.pages.toNat * g.pageSize.toNat < 2 ^ 32

instance (g : Geometry) : Decidable g.Tabled :=
  decidable_of_iff (1 ≤ g.pages ∧ g.pages ≤ 16384 ∧ 1 ≤ g.pageSize ∧
    g.pages.toNat * g.pageSize.toNat < 2 ^ 32)
    ⟨fun ⟨h₁, h₂, h₃, h₄⟩ => ⟨h₁, h₂, h₃, h₄⟩, fun ⟨h₁, h₂, h₃, h₄⟩ => ⟨h₁, h₂, h₃, h₄⟩⟩

/-- The byte field of a page-multiplied geometry holds every byte of a page, and the addresses of
all pages are three bytes. -/
structure Geometry.Shaped (g : Geometry) : Prop where
  mode_iff : g.mode = .pageMultiplied ↔ 0 < g.fieldWidth
  page : g.mode = .pageMultiplied → g.pageSize.toNat < 2 ^ g.fieldWidth.toNat
  addresses : g.mode = .pageMultiplied → g.pages.toNat * 2 ^ g.fieldWidth.toNat ≤ 2 ^ 24

theorem Geometry.shaped_linear (pages pageSize : UInt32) : (linear pages pageSize).Shaped :=
  ⟨by simp [linear], nofun, nofun⟩

namespace Density

variable {d : Density}

theorem tabled (h : d ∈ table) (powerOfTwo : Bool) : (d.geometry powerOfTwo).Tabled := by
  have hall : ∀ d ∈ table, (d.geometry true).Tabled ∧ (d.geometry false).Tabled := by decide
  cases powerOfTwo with
  | true => exact (hall d h).1
  | false => exact (hall d h).2

theorem shaped (h : d ∈ table) (powerOfTwo : Bool) : (d.geometry powerOfTwo).Shaped := by
  cases powerOfTwo with
  | true => exact Geometry.shaped_linear _ _
  | false =>
    have hall : ∀ d ∈ table, 0 < d.fieldWidth ∧ d.pageSize.toNat < 2 ^ d.fieldWidth.toNat ∧
        d.pages.toNat * 2 ^ d.fieldWidth.toNat ≤ 2 ^ 24 := by decide
    obtain ⟨hwidth, hpage, haddresses⟩ := hall d h
    exact ⟨⟨fun _ => hwidth, fun _ => rfl⟩, fun _ => hpage, fun _ => haddresses⟩

end Density

namespace Family

/-- The families have one of two fixed geometries, but for the DataFlash family. -/
theorem initializer_cases {m c : UInt8} {init : Initializer} (h : lookup m c = .ok init) :
    init = .fixed fourMebibyte ∨ init = .fixed shortArray ∨
      init = .statusProbe ∧ m = 0x1F ∧ c = 0x20 := by
  have hall : ∀ row ∈ table, row.initializer = .fixed fourMebibyte ∨
      row.initializer = .fixed shortArray ∨
        row.initializer = .statusProbe ∧ row.manufacturer = 0x1F ∧ row.code = 0x20 := by decide
  unfold lookup at h
  split at h
  case h_1 row hrow =>
    have hmc := List.find?_some hrow
    obtain ⟨rfl, rfl⟩ := of_decide_eq_true hmc
    rw [← Except.ok.inj h]
    exact hall row (List.mem_of_find?_eq_some hrow)
  case h_2 =>
    split at h
    · cases h
    · cases h

theorem tabled_of_fixed {m c : UInt8} {g : FixedGeometry} (h : lookup m c = .ok (.fixed g)) :
    (Geometry.linear g.pages g.pageSize).Tabled ∧ g.interface = .nor := by
  obtain hg | hg | ⟨hg, -⟩ := initializer_cases h
  · obtain rfl := Initializer.fixed.inj hg
    exact ⟨by decide, rfl⟩
  · obtain rfl := Initializer.fixed.inj hg
    exact ⟨by decide, rfl⟩
  · cases hg

theorem eq_of_statusProbe {m c : UInt8} (h : lookup m c = .ok .statusProbe) :
    m = 0x1F ∧ c = 0x20 := by
  obtain hg | hg | ⟨-, hmc⟩ := initializer_cases h
  · cases hg
  · cases hg
  · exact hmc

end Family

theorem JedecId.manufacturer_ofBytes (bytes : List UInt8) :
    (ofBytes bytes).manufacturer = bytes.getD 0 0 := by
  simp [ofBytes, manufacturer]

theorem JedecId.family_ofBytes (bytes : List UInt8) :
    (ofBytes bytes).family = bytes.getD 1 0 &&& 0xE0 := by
  simp [ofBytes, family]

/-! ## The invariant -/

namespace Descriptor

/-- What holds of the descriptor of a device that answered `id`, when `es` is what identification
did. -/
structure Invariant (candidates : List Part) (id : JedecId) (es : List Event) (d : Descriptor) :
    Prop where
  manufacturer : d.manufacturer = id.manufacturer
  family : d.family = id.family
  shaped : d.geometry.Shaped
  /-- Only a DataFlash is page-multiplied. -/
  pageMultiplied : d.geometry.mode = .pageMultiplied → d.interface = .dataflash ∧ d.part = none
  /-- A DataFlash is no part, and its status register was read. -/
  dataflash : d.interface = .dataflash → d.part = none ∧ d.manufacturer = 0x1F ∧
    d.family = 0x20 ∧ .asked .dataflashStatus ∈ es
  /-- A part is a linear SPI NOR device with a page for each of its sectors. -/
  part : ∀ p, d.part = some p → p ∈ candidates ∧ d.geometry.mode = .linear ∧ d.interface = .nor ∧
    d.geometry.pages = p.sectorCount.toUInt32 ∧ d.geometry.pageSize = p.pageSize.toUInt32
  /-- A device that is no part has a geometry of the tables. -/
  tabled : d.part = none → d.geometry.Tabled

namespace Invariant

variable {candidates : List Part} {id : JedecId} {es : List Event} {d : Descriptor}

/-- There are pages, and they are not empty, unless a part says otherwise. -/
theorem pages_pos (h : d.Invariant candidates id es)
    (hpart : ∀ p, d.part = some p → 1 ≤ p.sectorCount ∧ 1 ≤ p.pageSize) :
    1 ≤ d.geometry.pages ∧ 1 ≤ d.geometry.pageSize := by
  cases hp : d.part with
  | none => exact ⟨(h.tabled hp).pages_pos, (h.tabled hp).pageSize_pos⟩
  | some p =>
    obtain ⟨-, -, -, hpages, hsize⟩ := h.part p hp
    obtain ⟨hcount, hpage⟩ := hpart p hp
    rw [hpages, hsize]
    simp only [UInt32.le_iff_toNat_le, UInt16.le_iff_toNat_le, UInt16.toNat_toUInt32] at *
    exact ⟨hcount, hpage⟩

/-- A device whose part, if it has one, is small needs no more than three address bytes. -/
theorem pages_le (h : d.Invariant candidates id es)
    (hsized : ∀ p, d.part = some p → p.sectorCount ≤ 16384) : d.geometry.pages ≤ 16384 := by
  cases hp : d.part with
  | none => exact (h.tabled hp).pages_le
  | some p =>
    obtain ⟨-, -, -, hpages, -⟩ := h.part p hp
    have hcount := hsized p hp
    rw [hpages]
    simp only [UInt32.le_iff_toNat_le, UInt16.le_iff_toNat_le, UInt16.toNat_toUInt32] at *
    exact hcount

/-- The size of a device is a word, unless its part is too large. -/
theorem capacity_eq_error_iff (h : d.Invariant candidates id es) : (∃ t, d.capacity = .error t) ↔
    ∃ p, d.part = some p ∧ 2 ^ 32 ≤ p.sectorSize.toNat * p.sectorCount.toNat := by
  unfold capacity
  cases hp : d.part with
  | none =>
    have hsize := (h.tabled hp).size
    simp only [Word.mul_eq_error_iff, size_eq, reduceCtorEq, false_and, exists_false, iff_false]
    rintro ⟨t, hlarge, -⟩
    omega
  | some p => simp [Part.capacity_eq_error_iff]

end Invariant

end Descriptor

namespace Device

variable {candidates : List Part}

/-- Each way of identification that finds a device keeps the invariant. -/
theorem IdentifyPath.invariant {id : JedecId} {status : DataflashStatus} {d : Descriptor}
    {es : List Event} (h : IdentifyPath candidates id status (.ok d) es) :
    d.Invariant candidates id es := by
  cases h with
  | part hfind =>
    refine ⟨rfl, rfl, Geometry.shaped_linear _ _, nofun, nofun, fun q hq => ?_, nofun⟩
    obtain rfl := Option.some.inj hq
    exact ⟨Part.mem_of_find? hfind, rfl, rfl, rfl, rfl⟩
  | fixed _ hlookup =>
    obtain ⟨htabled, hnor⟩ := Family.tabled_of_fixed hlookup
    refine ⟨rfl, rfl, Geometry.shaped_linear _ _, nofun, fun hd => ?_, nofun, fun _ => htabled⟩
    cases hnor.symm.trans hd
  | dataflash _ hlookup hg =>
    obtain ⟨hm, hf⟩ := Family.eq_of_statusProbe hlookup
    obtain ⟨density, hmem, rfl⟩ := exists_density hg
    exact ⟨rfl, rfl, Density.shaped hmem _, fun _ => ⟨rfl, rfl⟩,
      fun _ => ⟨rfl, hm, hf, List.mem_cons_of_mem _ (List.mem_singleton_self _)⟩, nofun,
      fun _ => Density.tabled hmem _⟩

theorem invariant_of_ok {b : Board} {d : Descriptor} (h : (identify candidates b).value = .ok d) :
    d.Invariant candidates (.ofBytes b.id) (identify candidates b).events :=
  (identifyPath_of_ok h).invariant

end Device

/-! ## Small devices -/

/-- A fast read in three address bytes. -/
def Event.IsThreeByteRead (e : Event) : Prop :=
  ∃ address < 2 ^ 24, ∃ count fault, e = .transaction
    ⟨0x0B :: addressBytes 3 address ++ [0x00], List.replicate count 0, fault⟩

theorem Flash.ReadEvent.isThreeByteRead {g : Geometry} {e : Event} (hg : g.pages ≤ 16384)
    (h : ReadEvent g e) : e.IsThreeByteRead := by
  have hthree := Geometry.fourByte_eq_false_iff.2 hg
  obtain ⟨address, hreach, count, fault, rfl⟩ := h
  rw [Geometry.reach, hthree] at hreach
  refine ⟨address, hreach, count, fault, ?_⟩
  rw [Geometry.fastRead, hthree]
  rfl

namespace Device

/-- What holds of every device that is identified. Where the parts of the board have sectors and
pages, there are pages; and unless the device is one of them, its reads take three address bytes and
its size is a word. -/
theorem identify_invariant {build : Build} {custom : List Part} {b : Board} {d : Descriptor}
    (hcustom : ∀ p ∈ custom, 1 ≤ p.sectorCount ∧ 1 ≤ p.pageSize)
    (h : (identify (build.candidates custom) b).value = .ok d) :
    d.Invariant (build.candidates custom) (.ofBytes b.id)
      (identify (build.candidates custom) b).events ∧
    d.manufacturer = b.id.getD 0 0 ∧ d.family = b.id.getD 1 0 &&& 0xE0 ∧
    1 ≤ d.geometry.pages ∧ 1 ≤ d.geometry.pageSize ∧
    ((∀ p, d.part = some p → p ∈ build.parts) → d.geometry.pages ≤ 16384 ∧
      (∃ size, d.capacity = .ok size) ∧ ∀ f : Flash, f.descriptor = d → ∀ b' : Board,
        (∀ offset buffer, ∀ e ∈ (f.read offset buffer b').events, e.IsThreeByteRead) ∧
        ∀ headers r t, .transaction t ∈ (f.loadImage headers r b').events →
          (Event.transaction t).IsThreeByteRead) := by
  have hinv := invariant_of_ok h
  -- the part of a device is built in, and has its sizes from the tables, or it is the board's own
  have hpart : ∀ p, d.part = some p → 1 ≤ p.sectorCount ∧ 1 ≤ p.pageSize := by
    intro p hp
    obtain hmem | hmem := List.mem_append.1 (hinv.part p hp).1
    · exact ⟨(Build.sized_of_mem hmem).sectorCount_pos, (Build.sized_of_mem hmem).pageSize_pos⟩
    · exact hcustom p hmem
  obtain ⟨hpages, hpageSize⟩ := hinv.pages_pos hpart
  refine ⟨hinv, hinv.manufacturer.trans (JedecId.manufacturer_ofBytes _),
    hinv.family.trans (JedecId.family_ofBytes _), hpages, hpageSize, fun hbuilt => ?_⟩
  have hle := hinv.pages_le fun p hp => (Build.sized_of_mem (hbuilt p hp)).sectorCount_le
  refine ⟨hle, ?_, ?_⟩
  · cases hc : d.capacity with
    | ok size => exact ⟨size, rfl⟩
    | error t =>
      obtain ⟨p, hp, hlarge⟩ := hinv.capacity_eq_error_iff.1 ⟨t, hc⟩
      have hsized := (Build.sized_of_mem (hbuilt p hp)).capacity
      omega
  · rintro f rfl b'
    constructor
    · intro offset buffer e he
      exact ((Flash.read_within f offset buffer).events b' e he).isThreeByteRead hle
    · intro headers r t ht
      obtain hread | ⟨_, _, heq⟩ := (f.loadImage_inStep headers (.refl r)).does_of_mem b' _ ht
      · exact hread.isThreeByteRead hle
      · cases heq

end Device

/-- A small part of a board's own. -/
def Part.own : Part := .ofIds "own" 0x112233 0 4096 16 ∅

/-- Beside that part, an AT45DB161D is identified by its density and is a small device. -/
theorem identify_invariant_at45db161d :
    (∀ p ∈ [Part.own], 1 ≤ p.sectorCount ∧ 1 ≤ p.pageSize) ∧
    (Device.identify (Build.standard.candidates [.own]) .at45db161d).value =
      .ok Flash.at45db161d.descriptor ∧
    Flash.at45db161d.descriptor.geometry.pages ≤ 16384 := by
  have hcustom : ∀ p ∈ [Part.own], 1 ≤ p.sectorCount ∧ 1 ≤ p.pageSize := by decide
  have hd : (Device.identify (Build.standard.candidates [.own]) .at45db161d).value =
      .ok Flash.at45db161d.descriptor :=
    Run.eq_ok_of_toOption (by decide +kernel)
  obtain ⟨-, -, -, -, -, hsmall⟩ := Device.identify_invariant hcustom hd
  exact ⟨hcustom, hd, (hsmall nofun).1⟩

end FlashBoot
