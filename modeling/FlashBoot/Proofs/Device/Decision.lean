import FlashBoot.Proofs.Device.Invariant

/-!
# How identification decides

`Device.identify_decides`: on every board the two replies that identification may ask for settle
what it comes to and what it sends. The identifier is asked for first (`Board.idReply`). The first
candidate part that matches it decides, then the row of its family, and only a DataFlash is asked
for its status as well (`Board.statusReply`).

* `Family.lookup_of_mem` and `Density.find?_of_mem`: no two rows of the tables are in each other's
  way.
* `Density.roundsDown`: a DataFlash that is configured to a power of two keeps as much of its pages
  as a power of two can.
-/

namespace FlashBoot

/-! ## The tables -/

namespace Family

theorem lookup_of_mem {row : Family} (h : row ∈ table) :
    lookup row.manufacturer row.code = .ok row.initializer := by
  have hall : ∀ row ∈ table, lookup row.manufacturer row.code = .ok row.initializer := by decide
  exact hall row h

/-- Without a row for the family, some row or none may know the manufacturer. -/
theorem lookup_of_none {m c : UInt8} (h : ∀ row ∈ table, ¬ (row.manufacturer = m ∧ row.code = c)) :
    lookup m c = .error (if ∃ row ∈ table, row.manufacturer = m then .unknownFamily m c
      else .unknownManufacturer m) := by
  have hnone : table.find? (fun row => row.manufacturer = m ∧ row.code = c) = none :=
    List.find?_eq_none.2 fun row hrow => by simpa using h row hrow
  unfold lookup
  rw [hnone]
  simp only [List.any_eq_true, decide_eq_true_eq]
  split <;> rfl

end Family

namespace Density

/-- The largest power of two that is at most `n`. -/
structure RoundsDown (n size : Nat) : Prop where
  power : ∃ k, size = 2 ^ k
  le : size ≤ n
  largest : ∀ k, 2 ^ k ≤ n → 2 ^ k ≤ size

variable {d : Density}

theorem find?_of_mem (h : d ∈ table) : table.find? (·.code = d.code) = some d := by
  have hall : ∀ d ∈ table, table.find? (·.code = d.code) = some d := by decide
  exact hall d h

/-- The page size of a device that is configured to a power of two. -/
def roundedSize (d : Density) : UInt32 := 1 <<< (d.fieldWidth - 1)

theorem toNat_roundedSize (h : d ∈ table) : d.roundedSize.toNat = 2 ^ (d.fieldWidth.toNat - 1) := by
  have hall : ∀ d ∈ table, d.roundedSize.toNat = 2 ^ (d.fieldWidth.toNat - 1) := by decide
  exact hall d h

theorem roundsDown (h : d ∈ table) : RoundsDown d.pageSize.toNat d.roundedSize.toNat := by
  have hall : ∀ d ∈ table, 0 < d.fieldWidth.toNat ∧
      2 ^ (d.fieldWidth.toNat - 1) ≤ d.pageSize.toNat ∧
      d.pageSize.toNat < 2 ^ d.fieldWidth.toNat := by decide
  obtain ⟨hpos, hle, hlt⟩ := hall d h
  rw [toNat_roundedSize h]
  refine ⟨⟨_, rfl⟩, hle, fun k hk => Nat.pow_le_pow_right (by decide) ?_⟩
  have hwidth : k < d.fieldWidth.toNat :=
    (Nat.pow_lt_pow_iff_right (by decide)).1 (Nat.lt_of_le_of_lt hk hlt)
  omega

end Density

namespace DataflashStatus

theorem geometry_of_mem {d : Density} (hd : d ∈ Density.table) {s : UInt8}
    (hcode : d.code = s &&& 0x3C) :
    (ofByte s).geometry = .ok (d.geometry (s &&& 0x01 != 0)) := by
  have hfind := Density.find?_of_mem hd
  rw [hcode] at hfind
  rw [geometry, show (ofByte s).density = s &&& 0x3C from rfl, hfind]
  rfl

theorem geometry_of_none {s : UInt8} (h : ∀ d ∈ Density.table, d.code ≠ s &&& 0x3C) :
    (ofByte s).geometry = .error (.unknownDensity (s &&& 0x3C)) := by
  have hnone : Density.table.find? (·.code = s &&& 0x3C) = none :=
    List.find?_eq_none.2 fun d hd => by simpa using h d hd
  rw [geometry, show (ofByte s).density = s &&& 0x3C from rfl, hnone]

end DataflashStatus

/-! ## The two replies -/

/-- What the device answers to the identification command, or the code of the fault. -/
def Board.idReply (b : Board) : Except UInt8 JedecId :=
  (b.transact [0x9F] 5).1.map .ofBytes

/-- What the DataFlash status register answers behind that, or the code of the fault. -/
def Board.statusReply (b : Board) : Except UInt8 UInt8 :=
  ((b.transact [0x9F] 5).2.transact [0xD7] 1).1.map (·.headD 0)

namespace Device

/-- What comes of a DataFlash with the status reply `status`: the result `r` and the events `es`. -/
structure DecidesByStatus (id : JedecId) (status : Except UInt8 UInt8)
    (r : Except Failure Descriptor) (es : List Event) : Prop where
  failed : ∀ code, status = .error code →
    r = .error (.error (.bus code)) ∧ es = [.fetched [0x9F] 5, .struck [0xD7] 1 code]
  unknownDensity : ∀ s, status = .ok s → (∀ row ∈ Density.table, row.code ≠ s &&& 0x3C) →
    r = .error (.error (.probe (.unknownDensity (s &&& 0x3C)))) ∧
      es = [.fetched [0x9F] 5, .fetched [0xD7] 1]
  /-- The pages are those of the table. -/
  paged : ∀ s, status = .ok s → ∀ row ∈ Density.table, row.code = s &&& 0x3C →
    s &&& 0x01 = 0 →
    r = .ok (.ofFamily id ⟨.pageMultiplied, row.pages, row.pageSize, row.fieldWidth⟩ .dataflash) ∧
      es = [.fetched [0x9F] 5, .fetched [0xD7] 1]
  /-- The pages are rounded down to a power of two. -/
  linear : ∀ s, status = .ok s → ∀ row ∈ Density.table, row.code = s &&& 0x3C →
    s &&& 0x01 ≠ 0 → ∃ size : UInt32, size.toNat = 2 ^ (row.fieldWidth.toNat - 1) ∧
      Density.RoundsDown row.pageSize.toNat size.toNat ∧
      r = .ok (.ofFamily id ⟨.linear, row.pages, size, 0⟩ .dataflash) ∧
      es = [.fetched [0x9F] 5, .fetched [0xD7] 1]

/-- What comes of the identifier `id`, for which the lookup ends with `found`: the result `r` and
the events `es`. -/
structure Decides (id : JedecId) (found : Option Part) (status : Except UInt8 UInt8)
    (r : Except Failure Descriptor) (es : List Event) : Prop where
  part : ∀ p, found = some p → r = .ok (.ofPart id p) ∧ es = [.fetched [0x9F] 5]
  unknownManufacturer : found = none →
    (∀ row ∈ Family.table, row.manufacturer ≠ id.manufacturer) →
    r = .error (.error (.probe (.unknownManufacturer id.manufacturer))) ∧
      es = [.fetched [0x9F] 5]
  unknownFamily : found = none → (∃ row ∈ Family.table, row.manufacturer = id.manufacturer) →
    (∀ row ∈ Family.table, ¬ (row.manufacturer = id.manufacturer ∧ row.code = id.family)) →
    r = .error (.error (.probe (.unknownFamily id.manufacturer id.family))) ∧
      es = [.fetched [0x9F] 5]
  fixed : found = none → ∀ row ∈ Family.table, row.manufacturer = id.manufacturer →
    row.code = id.family → ∀ g, row.initializer = .fixed g →
    r = .ok (.ofFamily id ⟨.linear, g.pages, g.pageSize, 0⟩ g.interface) ∧
      es = [.fetched [0x9F] 5]
  dataflash : found = none → id.manufacturer = 0x1F → id.family = 0x20 →
    DecidesByStatus id status r es

variable {candidates : List Part} {id : JedecId} {b b₁ : Board}

/-- A DataFlash is asked for its status, which decides. -/
theorem decidesByStatus (hid : Run.Goes Bus.readId b (.ok id) b₁ [.fetched [0x9F] 5])
    (hfind : Part.find? id candidates = .ok none)
    (hlookup : Family.lookup id.manufacturer id.family = .ok .statusProbe) :
    DecidesByStatus id ((b₁.transact [0xD7] 1).1.map (·.headD 0))
      (identify candidates b).value (identify candidates b).events := by
  cases hreply : b₁.transact [0xD7] 1 with | mk reply b₂
  cases reply with
  | error code =>
    have hread : Run.Goes (Bus.readRegister .dataflashStatus) _ _ _ _ :=
      Bus.readRegister_goes_of_error hreply
    have hprobe : Run.Goes probeDensity _ _ _ _ := .bind_error hread
    have hgoes := identify_goes_of_family hid hfind
      (identifyFamily_goes_of_statusProbe hlookup hprobe)
    refine ⟨fun code' hcode => ?_, nofun, nofun, nofun⟩
    obtain rfl := Except.error.inj hcode
    exact ⟨hgoes.value, hgoes.events⟩
  | ok response =>
    have hread : Run.Goes (Bus.readRegister .dataflashStatus) _ _ _ _ :=
      Bus.readRegister_goes_of_ok hreply
    have hgoes := identify_goes_of_family hid hfind
      (identifyFamily_goes_of_statusProbe hlookup (probeDensity_goes_of_read hread))
    refine ⟨nofun, fun s hs hnone => ?_, fun s hs row hrow hcode hbit => ?_,
      fun s hs row hrow hcode hbit => ?_⟩
    · obtain rfl := Except.ok.inj hs
      rw [DataflashStatus.geometry_of_none hnone] at hgoes
      exact ⟨hgoes.value, hgoes.events⟩
    · obtain rfl := Except.ok.inj hs
      rw [DataflashStatus.geometry_of_mem hrow hcode, bne_eq_false_iff_eq.2 hbit] at hgoes
      exact ⟨hgoes.value, hgoes.events⟩
    · obtain rfl := Except.ok.inj hs
      rw [DataflashStatus.geometry_of_mem hrow hcode, bne_iff_ne.2 hbit] at hgoes
      exact ⟨row.roundedSize, Density.toNat_roundedSize hrow, Density.roundsDown hrow,
        hgoes.value, hgoes.events⟩

theorem decides {found : Option Part}
    (hid : Run.Goes Bus.readId b (.ok id) b₁ [.fetched [0x9F] 5])
    (hfind : Part.find? id candidates = .ok found) :
    Decides id found ((b₁.transact [0xD7] 1).1.map (·.headD 0))
      (identify candidates b).value (identify candidates b).events := by
  refine ⟨fun p hp => ?_, fun hnone hmanufacturer => ?_, fun hnone hmanufacturer hfamily => ?_,
    fun hnone row hrow hm hf g hg => ?_, fun hnone hm hf => ?_⟩
  · have hgoes := identify_goes_of_part hid (hp ▸ hfind)
    exact ⟨hgoes.value, hgoes.events⟩
  · have hlookup := Family.lookup_of_none (c := id.family)
      fun row hrow h => hmanufacturer row hrow h.1
    rw [if_neg fun ⟨row, hrow, h⟩ => hmanufacturer row hrow h] at hlookup
    have hgoes := identify_goes_of_family hid (hnone ▸ hfind)
      (identifyFamily_goes_of_unknown _ hlookup)
    exact ⟨hgoes.value, hgoes.events⟩
  · have hlookup := Family.lookup_of_none hfamily
    rw [if_pos hmanufacturer] at hlookup
    have hgoes := identify_goes_of_family hid (hnone ▸ hfind)
      (identifyFamily_goes_of_unknown _ hlookup)
    exact ⟨hgoes.value, hgoes.events⟩
  · have hlookup := Family.lookup_of_mem hrow
    rw [hm, hf, hg] at hlookup
    have hgoes := identify_goes_of_family hid (hnone ▸ hfind)
      (identifyFamily_goes_of_fixed _ hlookup)
    exact ⟨hgoes.value, hgoes.events⟩
  · refine decidesByStatus hid (hnone ▸ hfind) ?_
    rw [hm, hf]
    rfl

/-- **Identification decides.** A failed reply to the identification command ends it; otherwise the
first candidate part that matches the identifier decides, then the family, then the status. -/
theorem identify_decides (build : Build) {custom : List Part}
    (hcustom : ∀ p ∈ custom, p.idLength ≤ 6) (b : Board) :
    (∀ code, b.idReply = .error code →
      (identify (build.candidates custom) b).value = .error (.error (.bus code)) ∧
      (identify (build.candidates custom) b).events = [.struck [0x9F] 5 code]) ∧
    ∀ id, b.idReply = .ok id → ∃ found, Part.find? id (build.candidates custom) = .ok found ∧
      found = (build.candidates custom).find? (·.Matches id) ∧
      Decides id found b.statusReply (identify (build.candidates custom) b).value
        (identify (build.candidates custom) b).events := by
  have hfind := Part.find?_eq (Build.idLength_candidates (b := build) hcustom)
  unfold Board.idReply Board.statusReply
  cases hreply : b.transact [0x9F] 5 with | mk reply b₁
  cases reply with
  | error code =>
    have hgoes : Run.Goes (identify (build.candidates custom)) _ _ _ _ :=
      .bind_error (Bus.readId_goes_of_error hreply)
    refine ⟨fun code' hcode => ?_, nofun⟩
    obtain rfl := Except.error.inj hcode
    exact ⟨hgoes.value, hgoes.events⟩
  | ok response =>
    refine ⟨nofun, fun id hid => ?_⟩
    obtain rfl := Except.ok.inj hid
    exact ⟨_, hfind _, rfl, decides (Bus.readId_goes_of_ok hreply) (hfind _)⟩

end Device

theorem identify_decides_at45db161d :
    (∀ p ∈ [Part.own], p.idLength ≤ 6) ∧ Board.at45db161d.statusReply = .ok 0xAC ∧
    (Device.identify (Build.standard.candidates [.own]) .at45db161d).value =
      .ok Flash.at45db161d.descriptor ∧
    (Device.identify (Build.standard.candidates [.own]) .at45db161d).events =
      [.fetched [0x9F] 5, .fetched [0xD7] 1] := by
  have hcustom : ∀ p ∈ [Part.own], p.idLength ≤ 6 := by decide
  have hstatus : Board.at45db161d.statusReply = .ok 0xAC := rfl
  obtain ⟨found, -, hfound, hdecides⟩ :=
    (Device.identify_decides .standard hcustom .at45db161d).2 (.ofBytes [0x1F, 0x26]) rfl
  have hnone : found = none := by
    rw [hfound]
    decide +kernel
  exact ⟨hcustom, hstatus, (hdecides.dataflash hnone rfl rfl).paged 0xAC hstatus
    ⟨0x2C, "at45db161d", 4096, 528, 10⟩ (by decide) rfl rfl⟩

end FlashBoot
