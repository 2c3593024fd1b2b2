import FlashBoot.Proofs.Geometry.Address

/-!
# Translation and framing lose nothing

Up to the last offset whose exact address is a word, the translation of a page-multiplied geometry
is the exact address. So it is strictly increasing there, it is undone by `Geometry.flat`, and its
image are the addresses with a byte of the page in their byte field
(`Geometry.Shifted.exists_ofOffset_iff`).

The framing of a fast read carries all bytes of an address that fits, and nothing else has a
command (`Address.Framed`). `Geometry.addressing` collects both.
-/

namespace FlashBoot

namespace Geometry

/-- A page-multiplied geometry with any number of pages, each of which fits its byte field. -/
structure Shifted (g : Geometry) : Prop where
  mode : g.mode = .pageMultiplied
  width : g.fieldWidth.toNat < 32
  pos : 1 ≤ g.pageSize.toNat
  page : g.pageSize.toNat ≤ 2 ^ g.fieldWidth.toNat

/-- The addresses of two offsets, of which the second is the larger one. -/
structure Translates (g : Geometry) (x y : UInt32) (a c : Address) : Prop where
  left : Address.ofOffset g x = .ok a
  right : Address.ofOffset g y = .ok c
  left_exact : a.value.toNat = g.exact x.toNat
  right_exact : c.value.toNat = g.exact y.toNat
  increasing : a.value < c.value
  flat_left : g.flat a.value.toNat = x.toNat
  fits : c.fits g = true → a.fits g = true

end Geometry

/-- How an address is framed as a fast read. -/
structure Address.Framed (g : Geometry) (a : Address) : Prop where
  /-- Only an address that needs a fourth byte has no command, where three are sent. -/
  none_iff : a.readCommand? g = none ↔ g.pages ≤ 16384 ∧ 0x00FFFFFF < a.value
  /-- A command writes the address behind its opcode, and a dummy byte behind three. -/
  written : ∀ command, a.readCommand? g = some command →
    ∃ bytes, command = 0x0B :: bytes ++ (if g.pages ≤ 16384 then [0x00] else []) ∧
      bytes.length = (if g.pages ≤ 16384 then 3 else 4) ∧ numberOf bytes = a.value.toNat
  /-- No other address has the same command. -/
  unique : ∀ c : Address, a.fits g = true → c.readCommand? g = a.readCommand? g → c = a

/-- How a geometry addresses its bytes. -/
structure Geometry.Addressing (g : Geometry) : Prop where
  translates : g.Shifted → ∀ x y : UInt32, x < y → g.exact y.toNat < 2 ^ 32 →
    ∃ a c, g.Translates x y a c
  /-- The addresses of offsets are those whose byte field holds a byte of the page. -/
  image : g.Shifted → ∀ a : Address,
    (∃ x : UInt32, g.exact x.toNat < 2 ^ 32 ∧ Address.ofOffset g x = .ok a) ↔
      a.value.toNat % 2 ^ g.fieldWidth.toNat < g.pageSize.toNat
  framed : ∀ a : Address, a.Framed g

variable {g : Geometry} {a : Address}

/-! ## Translation -/

namespace Geometry.Shifted

/-- The translation does not look at the number of pages, so it may be taken small. -/
theorem paged (h : g.Shifted) : ({ g with pages := 0 } : Geometry).Paged :=
  ⟨h.mode, rfl, h.pos, h.page, h.width⟩

theorem ofOffset_eq (h : g.Shifted) {x : UInt32} (hx : g.exact x.toNat < 2 ^ 32) :
    ∃ a, Address.ofOffset g x = .ok a ∧ a.value.toNat = g.exact x.toNat :=
  ⟨_, h.paged.ofOffset_eq x, toNat_ofNat hx⟩

theorem exact_lt_exact (h : g.Shifted) {x y : Nat} (hxy : x < y) : g.exact x < g.exact y :=
  h.paged.exact_lt_exact hxy

theorem flat_exact (h : g.Shifted) (x : Nat) : g.flat (g.exact x) = x :=
  h.paged.flat_exact x

theorem exact_mod_lt (h : g.Shifted) (x : Nat) :
    g.exact x % 2 ^ g.fieldWidth.toNat < g.pageSize.toNat := by
  rw [show g.exact x % 2 ^ g.fieldWidth.toNat = x % g.pageSize.toNat from h.paged.exact_mod x]
  exact Nat.mod_lt x h.pos

/-- No address lies below its flat offset. -/
theorem flat_le (h : g.Shifted) (address : Nat) : g.flat address ≤ address := by
  have hpage := Nat.mul_le_mul_left (address / 2 ^ g.fieldWidth.toNat) h.page
  have haddress := Nat.div_add_mod' address (2 ^ g.fieldWidth.toNat)
  rw [flat]
  omega

/-- An address with a byte of the page in its byte field is that of its flat offset. -/
theorem exact_flat (h : g.Shifted) {address : Nat}
    (hbyte : address % 2 ^ g.fieldWidth.toNat < g.pageSize.toNat) :
    g.exact (g.flat address) = address := by
  have hdiv : g.flat address / g.pageSize.toNat = address / 2 ^ g.fieldWidth.toNat := by
    rw [flat, Nat.add_comm, Nat.add_mul_div_right _ _ h.pos, Nat.div_eq_of_lt hbyte, Nat.zero_add]
  have hmod : g.flat address % g.pageSize.toNat = address % 2 ^ g.fieldWidth.toNat := by
    rw [flat, Nat.mul_add_mod_self_right, Nat.mod_eq_of_lt hbyte]
  rw [exact, hdiv, hmod, Nat.div_add_mod']

theorem exists_ofOffset_iff (h : g.Shifted) (a : Address) :
    (∃ x : UInt32, g.exact x.toNat < 2 ^ 32 ∧ Address.ofOffset g x = .ok a) ↔
      a.value.toNat % 2 ^ g.fieldWidth.toNat < g.pageSize.toNat := by
  constructor
  · rintro ⟨x, hx, ha⟩
    obtain ⟨a', ha', hvalue⟩ := h.ofOffset_eq hx
    obtain rfl : a' = a := Except.ok.inj (ha'.symm.trans ha)
    rw [hvalue]
    exact h.exact_mod_lt x.toNat
  · intro hbyte
    have hflat := Nat.lt_of_le_of_lt (h.flat_le a.value.toNat) a.value.toNat_lt
    have hexact : g.exact (UInt32.ofNat (g.flat a.value.toNat)).toNat = a.value.toNat := by
      rw [toNat_ofNat hflat, h.exact_flat hbyte]
    have hx := hexact ▸ a.value.toNat_lt
    obtain ⟨a', ha', hvalue⟩ := h.ofOffset_eq hx
    obtain rfl : a' = a := by
      rw [Address.mk.injEq, ← UInt32.toNat_inj, hvalue, hexact]
    exact ⟨_, hx, ha'⟩

theorem translates (h : g.Shifted) {x y : UInt32} (hxy : x < y) (hy : g.exact y.toNat < 2 ^ 32) :
    ∃ a c, g.Translates x y a c := by
  have hlt := h.exact_lt_exact (UInt32.lt_iff_toNat_lt.1 hxy)
  obtain ⟨a, ha, ha'⟩ := h.ofOffset_eq (Nat.lt_trans hlt hy)
  obtain ⟨c, hc, hc'⟩ := h.ofOffset_eq hy
  refine ⟨a, c, ha, hc, ha', hc', ?_, ?_, fun hfits => ?_⟩
  · rw [UInt32.lt_iff_toNat_lt, ha', hc']
    exact hlt
  · rw [ha', h.flat_exact]
  · rw [fits_iff] at hfits ⊢
    omega

end Geometry.Shifted

/-! ## Framing -/

namespace Address

theorem readCommand?_eq_none_iff_lt :
    a.readCommand? g = none ↔ g.pages ≤ 16384 ∧ 0x00FFFFFF < a.value := by
  rw [readCommand?_eq_none_iff, fits, Bool.or_eq_false_iff, Geometry.fourByte_eq_false_iff,
    decide_eq_false_iff_not, UInt32.not_le]

theorem fits_of_readCommand? {command : List UInt8} (h : a.readCommand? g = some command) :
    a.fits g = true := by
  cases hfits : a.fits g with
  | true => rfl
  | false =>
    rw [readCommand?_eq_none_iff.2 hfits] at h
    cases h

/-- As many address bytes as are sent write every address that fits. -/
theorem lt_of_fits (h : a.fits g = true) :
    a.value.toNat < 256 ^ (if g.pages ≤ 16384 then 3 else 4) := by
  rw [fits_iff, Geometry.reach] at h
  simp only [← Geometry.fourByte_eq_false_iff]
  cases hg : g.fourByte <;> simpa [hg] using h

theorem fastRead_eq (address : Nat) : g.fastRead address =
    0x0B :: addressBytes (if g.pages ≤ 16384 then 3 else 4) address ++
      (if g.pages ≤ 16384 then [0x00] else []) := by
  simp only [← Geometry.fourByte_eq_false_iff, Geometry.fastRead]
  cases g.fourByte <;> rfl

theorem exists_bytes_of_readCommand? {command : List UInt8} (h : a.readCommand? g = some command) :
    ∃ bytes, command = 0x0B :: bytes ++ (if g.pages ≤ 16384 then [0x00] else []) ∧
      bytes.length = (if g.pages ≤ 16384 then 3 else 4) ∧ numberOf bytes = a.value.toNat := by
  have hfits := fits_of_readCommand? h
  rw [readCommand?_eq hfits, Option.some.injEq, fastRead_eq] at h
  exact ⟨_, h.symm, length_addressBytes _ _, numberOf_addressBytes (lt_of_fits hfits)⟩

theorem eq_of_readCommand?_eq {c : Address} {command : List UInt8}
    (ha : a.readCommand? g = some command) (hc : c.readCommand? g = some command) : c = a := by
  obtain ⟨bytes, rfl, -, hnumber⟩ := exists_bytes_of_readCommand? ha
  obtain ⟨bytes', hsame, -, hnumber'⟩ := exists_bytes_of_readCommand? hc
  obtain rfl : bytes = bytes' := (List.cons.inj (List.append_cancel_right hsame)).2
  rw [mk.injEq, ← UInt32.toNat_inj]
  exact hnumber'.symm.trans hnumber

theorem framed (g : Geometry) (a : Address) : a.Framed g := by
  refine ⟨readCommand?_eq_none_iff_lt, fun command => exists_bytes_of_readCommand?,
    fun c hfits hsame => ?_⟩
  rw [readCommand?_eq hfits] at hsame
  exact eq_of_readCommand?_eq (readCommand?_eq hfits) hsame

end Address

namespace Geometry

theorem addressing (g : Geometry) : g.Addressing :=
  ⟨fun h _ _ => h.translates, fun h => h.exists_ofOffset_iff, fun a => a.framed g⟩

/-- The last byte of a page and the first one of the next page. -/
theorem addressing_at45db161d :
    let g := (Density.geometry ⟨0x2C, "at45db161d", 4096, 528, 10⟩ false)
    g.Shifted ∧ (527 : UInt32) < 528 ∧ g.exact (528 : UInt32).toNat < 2 ^ 32 ∧
      (∃ a c, g.Translates 527 528 a c) ∧
      (⟨1024⟩ : Address).readCommand? g = some [0x0B, 0x00, 0x04, 0x00, 0x00] ∧
      ∀ c : Address, c.readCommand? g = some [0x0B, 0x00, 0x04, 0x00, 0x00] → c = ⟨1024⟩ := by
  intro g
  have hshifted : g.Shifted := ⟨rfl, by decide, by decide, by decide⟩
  have haddressing := addressing g
  exact ⟨hshifted, by decide, by decide,
    haddressing.translates hshifted 527 528 (by decide) (by decide), by decide,
    fun c => (haddressing.framed ⟨1024⟩).unique c (by decide)⟩

end Geometry

end FlashBoot
