import FlashBoot.Proofs.Geometry.Address
import FlashBoot.Proofs.Part

/-!
# Parts by the numbers of the tables

A line of a table gives the identifier of a part as one or two numbers, and an identifier is two
numbers as well: that of its first three bytes and that of the two behind them (`JedecId.number`,
`JedecId.extension`). A part of the short form matches the identifiers with its own number, and with
its own extension unless that is zero (`Part.Short.matches_iff`).

`Part.byNumber` collects what the numbers decide (`Part.ByNumber`): what a part matches, that a part
without a number and a part of the long form match nothing, and which parts overlap.
-/

namespace FlashBoot

namespace JedecId

/-- The number that the first three bytes write. -/
def number (id : JedecId) : Nat := numberOf (id.bytes.toList.take 3)

/-- The number that the last two bytes write. -/
def extension (id : JedecId) : Nat := numberOf (id.bytes.toList.drop 3)

/-- The identifier with these two numbers. -/
def ofNumbers (number extension : Nat) : JedecId :=
  .ofBytes (addressBytes 3 number ++ addressBytes 2 extension)

theorem number_eq_iff {id : JedecId} {n : Nat} (h : n < 2 ^ 24) :
    id.number = n ↔ id.bytes.toList.take 3 = addressBytes 3 n := by
  have hlen : (id.bytes.toList.take 3).length = 3 := by simp
  rw [number, numberOf_eq_iff (by rw [hlen]; exact h), hlen]

theorem extension_eq_iff {id : JedecId} {n : Nat} (h : n < 2 ^ 16) :
    id.extension = n ↔ id.bytes.toList.drop 3 = addressBytes 2 n := by
  have hlen : (id.bytes.toList.drop 3).length = 2 := by simp
  rw [extension, numberOf_eq_iff (by rw [hlen]; exact h), hlen]

theorem toList_ofNumbers (number extension : Nat) :
    (ofNumbers number extension).bytes.toList =
      addressBytes 3 number ++ addressBytes 2 extension := by
  simp [ofNumbers, ofBytes, addressBytes, List.range_succ, Vector.toList_ofFn]

theorem number_ofNumbers {n : Nat} (h : n < 2 ^ 24) (extension : Nat) :
    (ofNumbers n extension).number = n := by
  rw [number_eq_iff h, toList_ofNumbers]
  exact List.take_left' (length_addressBytes 3 n)

theorem extension_ofNumbers (number : Nat) {n : Nat} (h : n < 2 ^ 16) :
    (ofNumbers number n).extension = n := by
  rw [extension_eq_iff h, toList_ofNumbers]
  exact List.drop_left' (length_addressBytes 3 number)

end JedecId

namespace Part

/-- The part is written with three identifier bytes and two extended ones, whatever its name, its
size and its capabilities are. -/
def Short (p : Part) (jedec : UInt32) (extended : UInt16) : Prop :=
  ∃ name sectorSize sectorCount flags,
    p = ofIds name jedec extended sectorSize sectorCount flags

/-- The part is written with three identifier bytes and three extended ones. -/
def Long (p : Part) : Prop :=
  ∃ name jedec extended sectorSize sectorCount flags,
    p = ofLongIds name jedec extended sectorSize sectorCount flags

/-- What the numbers of the tables say about a part. -/
structure ByNumber (p : Part) : Prop where
  /-- It accepts what starts with its number, and goes on with its extension if it has one. -/
  short : ∀ jedec extended, p.Short jedec extended → 0 < jedec.toNat → jedec.toNat < 2 ^ 24 →
    ∀ id, p.accepts id =
      .ok (decide (id.number = jedec.toNat ∧ (extended = 0 ∨ id.extension = extended.toNat)))
  /-- Without a number it accepts nothing. -/
  unnumbered : ∀ extended, p.Short 0 extended → ∀ id, p.accepts id = .ok false
  /-- The long form accepts nothing. -/
  long : p.Long → ∀ id, p.accepts id = .ok false
  /-- Two parts overlap when they have the same number, and no two different extensions. -/
  overlap : ∀ (q : Part) jedec extended jedec' extended', p.Short jedec extended →
    q.Short jedec' extended' → 0 < jedec.toNat → jedec.toNat < 2 ^ 24 →
    0 < jedec'.toNat → jedec'.toNat < 2 ^ 24 →
    ((∃ id, p.accepts id = .ok true ∧ q.accepts id = .ok true) ↔
      jedec = jedec' ∧ (extended = extended' ∨ extended = 0 ∨ extended' = 0))

variable {p q : Part} {id : JedecId} {jedec jedec' : UInt32} {extended extended' : UInt16}

namespace Short

theorem id_eq (h : p.Short jedec extended) :
    p.id.toList = addressBytes 3 jedec.toNat ++ (addressBytes 2 extended.toNat ++ [0]) := by
  obtain ⟨name, sectorSize, sectorCount, flags, rfl⟩ := h
  simp [ofIds, addressBytes, List.range_succ, byte_eq]

theorem idLength_eq (h : p.Short jedec extended) :
    p.idLength = if jedec = 0 then 0 else if extended = 0 then 3 else 5 := by
  obtain ⟨name, sectorSize, sectorCount, flags, rfl⟩ := h
  rfl

theorem idLength_le (h : p.Short jedec extended) : p.idLength ≤ 6 := by
  rw [h.idLength_eq]
  split
  · omega
  · split <;> omega

theorem take_three (h : p.Short jedec extended) :
    p.id.toList.take 3 = addressBytes 3 jedec.toNat := by
  rw [h.id_eq]
  exact List.take_left' (length_addressBytes 3 _)

theorem take_five (h : p.Short jedec extended) :
    p.id.toList.take 5 = addressBytes 3 jedec.toNat ++ addressBytes 2 extended.toNat := by
  rw [h.id_eq, ← List.append_assoc]
  exact List.take_left' (by simp)

/-- The first three bytes tell the number, and the two behind them the extension. -/
theorem matches_iff (h : p.Short jedec extended) (hpos : 0 < jedec.toNat)
    (hlt : jedec.toNat < 2 ^ 24) :
    p.Matches id ↔ id.number = jedec.toNat ∧ (extended = 0 ∨ id.extension = extended.toNat) := by
  have hne : jedec ≠ 0 := by
    rintro rfl
    exact absurd hpos (by decide)
  have hlen := h.idLength_eq
  rw [if_neg hne] at hlen
  rw [Matches, JedecId.number_eq_iff hlt, JedecId.extension_eq_iff extended.toNat_lt]
  by_cases hext : extended = 0
  · rw [if_pos hext] at hlen
    rw [hlen, h.take_three]
    simp [hext, eq_comm]
  · rw [if_neg hext] at hlen
    have hall : id.bytes.toList.take 5 = id.bytes.toList.take 3 ++ id.bytes.toList.drop 3 := by
      rw [List.take_append_drop, List.take_of_length_le (by simp)]
    rw [hlen, h.take_five, hall, List.append_eq_append_iff_of_size_eq_left (by simp)]
    simp [hext, eq_comm]

theorem accepts_eq (h : p.Short jedec extended) (hpos : 0 < jedec.toNat)
    (hlt : jedec.toNat < 2 ^ 24) (id : JedecId) : p.accepts id =
      .ok (decide (id.number = jedec.toNat ∧ (extended = 0 ∨ id.extension = extended.toNat))) := by
  rw [Part.accepts_eq h.idLength_le, Except.ok.injEq, decide_eq_decide]
  exact h.matches_iff hpos hlt

/-- No identifier has two numbers, and one that has the extension of the part that needs one has
both. -/
theorem overlap_iff (h : p.Short jedec extended) (h' : q.Short jedec' extended')
    (hpos : 0 < jedec.toNat) (hlt : jedec.toNat < 2 ^ 24) (hpos' : 0 < jedec'.toNat)
    (hlt' : jedec'.toNat < 2 ^ 24) :
    (∃ id, p.accepts id = .ok true ∧ q.accepts id = .ok true) ↔
      jedec = jedec' ∧ (extended = extended' ∨ extended = 0 ∨ extended' = 0) := by
  simp only [h.accepts_eq hpos hlt, h'.accepts_eq hpos' hlt', Except.ok.injEq,
    decide_eq_true_eq]
  constructor
  · rintro ⟨id, ⟨hnumber, hext⟩, hnumber', hext'⟩
    refine ⟨UInt32.toNat_inj.1 (hnumber.symm.trans hnumber'), ?_⟩
    rcases hext with hzero | hext
    · exact .inr (.inl hzero)
    · rcases hext' with hzero' | hext'
      · exact .inr (.inr hzero')
      · exact .inl (UInt16.toNat_inj.1 (hext.symm.trans hext'))
  · rintro ⟨rfl, hext⟩
    -- the extension of the part that has one
    have hany : ∃ e : UInt16, (extended = 0 ∨ e = extended) ∧ (extended' = 0 ∨ e = extended') := by
      rcases hext with rfl | hzero | hzero'
      · exact ⟨extended, .inr rfl, .inr rfl⟩
      · exact ⟨extended', .inl hzero, .inr rfl⟩
      · exact ⟨extended, .inr rfl, .inl hzero'⟩
    obtain ⟨e, he, he'⟩ := hany
    have hnumber := JedecId.number_ofNumbers hlt e.toNat
    have hextension := JedecId.extension_ofNumbers jedec.toNat e.toNat_lt
    refine ⟨.ofNumbers jedec.toNat e.toNat, ⟨hnumber, he.imp_right ?_⟩, hnumber,
      he'.imp_right ?_⟩
    · rintro rfl
      exact hextension
    · rintro rfl
      exact hextension

end Short

/-- A part of which no byte or all six count matches nothing. -/
theorem accepts_eq_false (hlen : p.idLength = 0 ∨ p.idLength = 6) (id : JedecId) :
    p.accepts id = .ok false := by
  have hno : ¬ p.Matches id := by
    rintro ⟨hpos, hle, -⟩
    omega
  rw [accepts_eq (by omega), decide_eq_false hno]

/-- The numbers of the tables decide what the parts match. -/
theorem byNumber (p : Part) : p.ByNumber := by
  refine ⟨fun jedec extended h => h.accepts_eq, fun extended h => ?_, fun h => ?_,
    fun q jedec extended jedec' extended' h h' => h.overlap_iff h'⟩
  · exact accepts_eq_false (.inl h.idLength_eq)
  · obtain ⟨name, jedec, extended, sectorSize, sectorCount, flags, rfl⟩ := h
    exact accepts_eq_false (.inr rfl)

/-- A board's own part with the number of a built-in part, and no extension. -/
def anyExtension : Part := .ofIds "any" 0x012018 0 (64 * 1024) 256 ∅

/-- It overlaps the built-in part, and matches what that one matches. -/
theorem byNumber_s25fl129p1 :
    anyExtension.Short 0x012018 0 ∧ 0 < (0x012018 : UInt32).toNat ∧
    (0x012018 : UInt32).toNat < 2 ^ 24 ∧
    anyExtension.accepts ⟨#v[0x01, 0x20, 0x18, 0x4D, 0x01]⟩ = .ok true ∧
    ∃ id, anyExtension.accepts id = .ok true ∧
      (ofIds "s25fl129p1" 0x012018 0x4D01 (64 * 1024) 256 ∅).accepts id = .ok true := by
  have hshort : anyExtension.Short 0x012018 0 := ⟨_, _, _, _, rfl⟩
  have hnumbers := byNumber anyExtension
  refine ⟨hshort, by decide, by decide, ?_, ?_⟩
  · rw [hnumbers.short _ _ hshort (by decide) (by decide), decide_eq_true (by decide)]
  · exact (hnumbers.overlap _ _ _ _ _ hshort ⟨_, _, _, _, rfl⟩ (by decide) (by decide) (by decide)
      (by decide)).2 ⟨rfl, .inr (.inl rfl)⟩

end Part

end FlashBoot
