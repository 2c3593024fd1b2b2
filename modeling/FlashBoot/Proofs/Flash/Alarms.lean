import FlashBoot.Proofs.Device.Identification
import FlashBoot.Proofs.Flash.Ways

/-!
# What a read logs as an error

A read logs an error only if it fails (`Geometry.Reads.calm`). A read of at most a page that fails
logs one (`Flash.told_of_reads`), except those that are refused without a word
(`Flash.RefusesSilently`), which do nothing at all. All of it is read off the ways of a read.
-/

namespace FlashBoot

/-! ## Offsets in reach -/

namespace Geometry

variable {g : Geometry}

theorem carries_linear_iff (hmode : g.mode = .linear) (offset : UInt32) :
    g.Carries offset ↔ offset.toNat < g.reach := by
  simp only [Carries, Address.ofOffset_linear hmode, Except.ok.injEq, exists_eq_left', fits_iff]

theorem carries_paged_iff (h : g.Paged) (offset : UInt32) :
    g.Carries offset ↔ g.exact offset.toNat % 2 ^ 32 < 2 ^ 24 := by
  simp only [Carries, h.ofOffset_eq, Except.ok.injEq, exists_eq_left', fits_iff,
    UInt32.toNat_ofNat', h.reach_eq]

/-- A page of offsets has addresses that span less than two pages of the array. -/
theorem Paged.exact_page_lt (h : g.Paged) {x y : Nat} (hxy : y < x + g.pageSize.toNat) :
    g.exact y < g.exact x + 2 * 2 ^ g.fieldWidth.toNat := by
  have hpage := h.page
  have hmod := Nat.mod_lt y h.pos
  have hdiv : y / g.pageSize.toNat ≤ x / g.pageSize.toNat + 1 := by
    rw [← Nat.add_div_right _ h.pos]
    exact Nat.div_le_div_right (by omega)
  have hmul := Nat.mul_le_mul_right (2 ^ g.fieldWidth.toNat) hdiv
  rw [Nat.succ_mul] at hmul
  unfold exact
  omega

/-- Within one page of offsets, all are in reach when the first and the last one are. -/
theorem Known.carries (h : g.Known) {offset : UInt32} {count : Nat} (hpos : 0 < count)
    (hcount : count ≤ g.pageSize.toNat) (hword : offset.toNat + count ≤ 2 ^ 32)
    (hfirst : g.Carries offset) (hlast : g.Carries (offset + .ofNat (count - 1))) {x : Nat}
    (hx : offset.toNat ≤ x) (hx' : x < offset.toNat + count) : g.Carries (.ofNat x) := by
  have htoNat : (UInt32.ofNat x).toNat = x := toNat_ofNat (by omega)
  have hend : (offset + .ofNat (count - 1)).toNat = offset.toNat + (count - 1) :=
    toNat_add_ofNat (by omega)
  obtain hmode | ⟨d, hd, rfl⟩ := h
  · rw [carries_linear_iff hmode, hend] at hlast
    rw [carries_linear_iff hmode, htoNat]
    omega
  · have hpaged := Density.paged hd
    have hwidth : ∀ d ∈ Density.table, 2 * 2 ^ (d.geometry false).fieldWidth.toNat ≤ 4096 := by
      decide
    have hspan := hpaged.exact_page_lt
      (show offset.toNat + (count - 1) < offset.toNat + (d.geometry false).pageSize.toNat by omega)
    have hbelow := hpaged.exact_le_exact hx
    have habove := hpaged.exact_le_exact (show x ≤ offset.toNat + (count - 1) by omega)
    have hw := hwidth d hd
    rw [carries_paged_iff hpaged] at hfirst
    rw [carries_paged_iff hpaged, hend] at hlast
    rw [carries_paged_iff hpaged, htoNat]
    -- the addresses between two that lie low in the word and close together lie low, too
    omega

end Geometry

/-! ## Reading -/

/-- A read that is refused without a word: it ends above the flat offsets, or its last byte is in
reach and its first one is not. -/
def Flash.RefusesSilently (f : Flash) (offset : UInt32) (count : Nat) : Prop :=
  0 < count ∧ (2 ^ 32 < offset.toNat + count ∨
    f.geometry.Carries (offset + .ofNat (count - 1)) ∧ ¬ f.geometry.Carries offset)

namespace Geometry

variable {g : Geometry} {x : UInt32} {n : Nat} {r : Except Failure Unit} {t : Trace}

theorem ReadsChunks.calm (h : g.ReadsChunks x n r t) : t.alarms ≠ [] → Run.Failed r := by
  induction h with
  | done x => exact absurd rfl
  | refused _ _ => exact absurd rfl
  | struck _ _ _ _ => exact fun _ => ⟨_, rfl⟩
  | arrived _ _ _ _ ih =>
    rw [Trace.alarms_event, Trace.alarms_message_of_not rfl]
    exact ih

/-- Among offsets in reach, only the bus can fail a chunk. -/
theorem ReadsChunks.told (h : g.ReadsChunks x n r t)
    (hreach : ∀ i < n, g.Carries (x + .ofNat i)) : Run.Failed r → t.alarms ≠ [] := by
  induction h with
  | done x => exact nofun
  | refused hpos hrefuses =>
    have hfirst := UInt32.add_zero _ ▸ hreach 0 hpos
    exact absurd hfirst hrefuses.not_carries
  | struck _ _ _ _ => exact fun _ => List.cons_ne_nil _ _
  | @arrived x n k _ _ _ _ _ _ _ ih =>
    rw [Trace.alarms_event, Trace.alarms_message_of_not rfl]
    refine ih fun i hi => ?_
    have h := hreach (k + i) (by omega)
    rwa [UInt32.ofNat_add, ← UInt32.add_assoc] at h

theorem Reads.calm (h : g.Reads x n r t) : t.alarms ≠ [] → Run.Failed r := by
  cases h with
  | beyond _ _ => exact absurd rfl
  | trapped _ _ => exact absurd rfl
  | unreachable _ _ _ => exact fun _ => ⟨_, rfl⟩
  | chunks _ _ hchunks => exact hchunks.calm

end Geometry

namespace Flash

variable {f : Flash} {offset : UInt32} {n : Nat} {r : Except Failure Unit} {t : Trace}

/-- It does nothing at all. -/
theorem RefusesSilently.reads (h : f.RefusesSilently offset n) (hf : f.descriptor.Addressable)
    (hreads : f.geometry.Reads offset n r t) : r = .error (.error .outOfBounds) ∧ t = [] := by
  obtain ⟨hpos, h⟩ := h
  cases hreads with
  | beyond _ _ => exact ⟨rfl, rfl⟩
  | trapped _ htrap => exact absurd ⟨_, htrap⟩ (hf.not_traps _)
  | unreachable _ hword hlast =>
    obtain hbeyond | ⟨hcarries, -⟩ := h
    · omega
    · exact absurd hcarries hlast
  | chunks hword _ hchunks =>
    obtain hbeyond | ⟨-, hfirst⟩ := h
    · exact absurd hbeyond (Nat.not_lt.2 (hword hpos))
    cases hchunks with
    | done _ => exact absurd hpos (Nat.lt_irrefl 0)
    | refused _ hrefuses =>
      cases hrefuses with
      | trapped htrap => exact absurd ⟨_, htrap⟩ (hf.not_traps _)
      | unreachable _ _ => exact ⟨rfl, rfl⟩
    | struck _ _ htranslated hfits => exact absurd ⟨_, htranslated, hfits⟩ hfirst
    | arrived _ htranslated hfits _ => exact absurd ⟨_, htranslated, hfits⟩ hfirst

/-- Any other read of at most a page that fails logs an error. -/
theorem told_of_reads (hf : f.descriptor.Known) (hpage : n ≤ f.geometry.pageSize.toNat)
    (h : ¬ f.RefusesSilently offset n) (hreads : f.geometry.Reads offset n r t) :
    Run.Failed r → t.alarms ≠ [] := by
  cases hreads with
  | beyond hpos hbeyond => exact absurd ⟨hpos, .inl hbeyond⟩ h
  | trapped _ htrap => exact absurd ⟨_, htrap⟩ (hf.addressable.not_traps _)
  | unreachable _ _ _ => exact fun _ => List.cons_ne_nil _ _
  | chunks hword hlast hchunks =>
    refine hchunks.told fun i hi => ?_
    have hpos : 0 < n := by omega
    have hfirst : f.geometry.Carries offset :=
      Classical.byContradiction fun hnot => h ⟨hpos, .inr ⟨hlast hpos, hnot⟩⟩
    have hcarries := hf.geometry.carries hpos hpage (hword hpos) hfirst (hlast hpos)
      (Nat.le_add_right offset.toNat i) (Nat.add_lt_add_left hi _)
    rwa [UInt32.ofNat_add, UInt32.ofNat_toNat] at hcarries

end Flash

end FlashBoot
