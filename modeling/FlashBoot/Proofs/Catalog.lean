import FlashBoot.Catalog
import FlashBoot.Proofs.Part
import Mathlib.Data.List.Pairwise

/-!
# The built-in catalog tells geometries

`Build.find?_sameGeometry`: whichever vendors a build includes, a device that answers like one of
its parts is found, and with the geometry of that part, though not always as that part itself. The
tables bring two properties for it.

* `sameGeometry_of_compatible`: parts that can answer with one identifier have the same geometry, so
  it does not matter which of them comes first.
* `exists_shorter`: every part, one with six significant bytes too, has a part in the table of its
  vendor that matches whatever it answers.

Every part of the tables is small enough for three address bytes (`Build.sized_of_mem`).
-/

namespace FlashBoot

namespace Part

/-- A device of this part may answer the identifier: it starts with the significant bytes of the
part, or with the first five of them. -/
def Answers (p : Part) (id : JedecId) : Prop :=
  p.id.toList.take (min p.idLength 5) = id.bytes.toList.take (min p.idLength 5)

/-- The parts have arrays of the same size, in sectors and pages of the same size. -/
structure SameGeometry (p q : Part) : Prop where
  sectorSize : p.sectorSize = q.sectorSize
  sectorCount : p.sectorCount = q.sectorCount
  pageSize : p.pageSize = q.pageSize

instance (p q : Part) : Decidable (p.SameGeometry q) :=
  decidable_of_iff (p.sectorSize = q.sectorSize ∧ p.sectorCount = q.sectorCount ∧
    p.pageSize = q.pageSize) ⟨fun ⟨h₁, h₂, h₃⟩ => ⟨h₁, h₂, h₃⟩, fun ⟨h₁, h₂, h₃⟩ => ⟨h₁, h₂, h₃⟩⟩

theorem SameGeometry.symm {p q : Part} (h : p.SameGeometry q) : q.SameGeometry p :=
  ⟨h.sectorSize.symm, h.sectorCount.symm, h.pageSize.symm⟩

/-- The significant bytes do not differ, as far as both parts have them among the five that are
read. -/
def Compatible (p q : Part) : Prop :=
  p.id.toList.take (min (min p.idLength q.idLength) 5) =
    q.id.toList.take (min (min p.idLength q.idLength) 5)

instance (p q : Part) : Decidable (p.Compatible q) :=
  inferInstanceAs (Decidable (_ = _))

theorem Compatible.symm {p q : Part} (h : p.Compatible q) : q.Compatible p := by
  unfold Compatible at h ⊢
  rw [Nat.min_comm q.idLength, h]

/-- A list that starts like another one does so up to any smaller length. -/
theorem take_eq_take_of_le {l l' : List UInt8} {m n : Nat} (h : l.take n = l'.take n)
    (hmn : m ≤ n) : l.take m = l'.take m := by
  have := congrArg (List.take m) h
  rwa [List.take_take, List.take_take, Nat.min_eq_left hmn] at this

/-- A part that matches what another one answers is compatible with it. -/
theorem Answers.compatible {p q : Part} {id : JedecId} (hp : p.Answers id) (hq : q.Matches id) :
    p.Compatible q := by
  obtain ⟨-, -, hq⟩ := hq
  exact (take_eq_take_of_le hp (by omega)).trans (take_eq_take_of_le hq (by omega)).symm

end Part

/-! ## The tables -/

namespace Vendor

theorem mem_all (v : Vendor) : v ∈ all := by
  cases v <;> decide

theorem idLength_of_mem {v : Vendor} {p : Part} (h : p ∈ v.parts) :
    p.idLength = 3 ∨ p.idLength = 5 ∨ p.idLength = 6 := by
  have hall : ∀ p ∈ v.parts, p.idLength = 3 ∨ p.idLength = 5 ∨ p.idLength = 6 := by
    cases v <;> decide +kernel
  exact hall p h

theorem sized_of_mem {v : Vendor} {p : Part} (h : p ∈ v.parts) : p.Sized := by
  have hall : ∀ p ∈ v.parts, p.Sized := by
    cases v <;> decide +kernel
  exact hall p h

/-- What the part answers, a part of the same vendor with fewer significant bytes matches. -/
theorem exists_shorter {v : Vendor} {p : Part} (h : p ∈ v.parts) :
    ∃ q ∈ v.parts, 0 < q.idLength ∧ q.idLength ≤ min p.idLength 5 ∧
      q.id.toList.take q.idLength = p.id.toList.take q.idLength := by
  have hall : ∀ p ∈ v.parts, ∃ q ∈ v.parts, 0 < q.idLength ∧ q.idLength ≤ min p.idLength 5 ∧
      q.id.toList.take q.idLength = p.id.toList.take q.idLength := by
    cases v <;> decide +kernel
  exact hall p h

end Vendor

namespace Build

theorem mem_parts {b : Build} {p : Part} (h : p ∈ b.parts) :
    ∃ v, b.includes v = true ∧ p ∈ v.parts := by
  obtain ⟨v, hv, hp⟩ := List.mem_flatMap.1 h
  exact ⟨v, (List.mem_filter.1 hv).2, hp⟩

theorem mem_parts_of_mem {b : Build} {v : Vendor} {p : Part} (hv : b.includes v = true)
    (hp : p ∈ v.parts) : p ∈ b.parts :=
  List.mem_flatMap.2 ⟨v, List.mem_filter.2 ⟨v.mem_all, hv⟩, hp⟩

theorem idLength_le {b : Build} {p : Part} (h : p ∈ b.parts) : p.idLength ≤ 6 := by
  obtain ⟨v, -, hp⟩ := mem_parts h
  have := Vendor.idLength_of_mem hp
  omega

theorem sized_of_mem {b : Build} {p : Part} (h : p ∈ b.parts) : p.Sized := by
  obtain ⟨v, -, hp⟩ := mem_parts h
  exact Vendor.sized_of_mem hp

theorem idLength_candidates {b : Build} {custom : List Part}
    (hcustom : ∀ p ∈ custom, p.idLength ≤ 6) : ∀ p ∈ b.candidates custom, p.idLength ≤ 6 := by
  intro p hp
  rcases List.mem_append.1 hp with hp | hp
  · exact idLength_le hp
  · exact hcustom p hp

/-- Parts that can answer with one identifier have the same geometry. -/
theorem sameGeometry_of_compatible {b : Build} {p q : Part} (hp : p ∈ b.parts) (hq : q ∈ b.parts)
    (h : p.Compatible q) : p.SameGeometry q := by
  have hmem : ∀ {p}, p ∈ b.parts → p ∈ withAtmel.parts := by
    intro p hp
    obtain ⟨v, -, hp⟩ := mem_parts hp
    exact mem_parts_of_mem rfl hp
  have hpairs : withAtmel.parts.Pairwise fun p q => p.Compatible q → p.SameGeometry q := by
    decide +kernel
  have hsymm : Std.Symm fun p q : Part => p.Compatible q → p.SameGeometry q :=
    ⟨fun p q hpq hqp => (hpq hqp.symm).symm⟩
  exact hpairs.forall_of_forall (fun p _ _ => ⟨rfl, rfl, rfl⟩) (hmem hp) (hmem hq) h

/-- A device that answers like a built-in part is found with the geometry of that part, whatever
parts the board adds. -/
theorem find?_sameGeometry (b : Build) {p : Part} (hp : p ∈ b.parts) (custom : List Part)
    {id : JedecId} (h : p.Answers id) :
    ∃ q, Part.find? id (b.candidates custom) = .ok (some q) ∧ q.SameGeometry p := by
  obtain ⟨v, hv, hpv⟩ := mem_parts hp
  obtain ⟨r, hr, hpos, hle, hrp⟩ := Vendor.exists_shorter hpv
  have hmatch : r.Matches id :=
    ⟨hpos, by omega, hrp.trans (Part.take_eq_take_of_le h hle)⟩
  obtain ⟨q, hq, hqid, hfind⟩ := Part.exists_find? (fun _ => idLength_le) (mem_parts_of_mem hv hr)
    hmatch
  refine ⟨q, ?_, (sameGeometry_of_compatible hp hq (h.compatible hqid)).symm⟩
  rw [candidates, Part.find?_append, hfind]

/-- An MT25QL256A, whose sixth significant byte is never read: it is found as an N25Q256A. -/
def mt25ql256a : Part :=
  .ofLongIds "mt25ql256a" 0x20ba19 0x104400 (64 * 1024) 512
    {.sect4K, .dualRead, .quadRead, .fourByteOpcodes, .useFsr}

theorem find?_sameGeometry_mt25ql256a :
    mt25ql256a ∈ standard.parts ∧ mt25ql256a.Answers ⟨#v[0x20, 0xBA, 0x19, 0x10, 0x44]⟩ ∧
    ∃ q, Part.find? ⟨#v[0x20, 0xBA, 0x19, 0x10, 0x44]⟩ (standard.candidates []) = .ok (some q) ∧
      q.SameGeometry mt25ql256a := by
  have hp : mt25ql256a ∈ standard.parts :=
    mem_parts_of_mem (v := .micron) rfl (List.mem_of_getElem? (i := 7) rfl)
  have hanswers : mt25ql256a.Answers ⟨#v[0x20, 0xBA, 0x19, 0x10, 0x44]⟩ := by
    unfold Part.Answers
    decide
  exact ⟨hp, hanswers, find?_sameGeometry standard hp [] hanswers⟩

end Build

end FlashBoot
