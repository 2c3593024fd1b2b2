import FlashBoot.Proofs.Flash.Ways

/-!
# Reads that are checked first

A checked read is refused, or it is the read (`Flash.readChecked_cases`), so what is known of every
read is known of every checked read. `ChecksRange` says what is relied on of a check: it refuses
what lies outside of the array, and lets everything else pass when any offset is a multiple of the
granularity. The check of a slice is one (`checksRange_checkSlice`).
-/

namespace FlashBoot

/-! ## Checks -/

/-- The check tells that a range lies outside of the array, else perhaps that it is off the
granularity, and nothing else. -/
structure ChecksRange (check : RangeCheck) : Prop where
  outOfBounds_iff : ∀ {size capacity offset length}, check size capacity offset length =
    .error .outOfBounds ↔ capacity < length ∨ capacity - length < offset
  notAligned : ∀ {size capacity offset length}, check size capacity offset length =
    .error .notAligned → ¬ (size ∣ offset ∧ size ∣ length)
  other : ∀ {size capacity offset length}, check size capacity offset length ≠ .error .other

namespace ChecksRange

variable {check : RangeCheck} {capacity offset length : Nat}

theorem of_outside (h : ChecksRange check) (houtside : capacity < offset + length) :
    check readSize capacity offset length = .error .outOfBounds :=
  h.outOfBounds_iff.2 (by omega)

/-- Every offset is a multiple of the granularity. -/
theorem of_inside (h : ChecksRange check) (hinside : offset + length ≤ capacity) :
    check readSize capacity offset length = .ok () := by
  cases hcheck : check readSize capacity offset length with
  | ok _ => rfl
  | error kind =>
    cases kind with
    | outOfBounds =>
      have := h.outOfBounds_iff.1 hcheck
      omega
    | notAligned => exact absurd ⟨Nat.one_dvd _, Nat.one_dvd _⟩ (h.notAligned hcheck)
    | other => exact absurd hcheck h.other

end ChecksRange

theorem checksRange_checkSlice : ChecksRange checkSlice := by
  constructor
  case outOfBounds_iff =>
    intro size capacity offset length
    unfold checkSlice
    split
    case isTrue h => exact iff_of_true rfl h
    case isFalse h =>
      refine iff_of_false ?_ h
      split <;> exact nofun
  case notAligned =>
    intro size capacity offset length h hdvd
    unfold checkSlice at h
    split at h
    · cases h
    · split at h
      case isTrue hoff =>
        exact hoff.elim (absurd (Nat.mod_eq_zero_of_dvd hdvd.1))
          (absurd (Nat.mod_eq_zero_of_dvd hdvd.2))
      case isFalse => cases h
  case other =>
    intro size capacity offset length
    unfold checkSlice
    split
    · exact nofun
    · split <;> exact nofun

/-! ## Checked reads -/

namespace Flash

variable {f : Flash} {check : RangeCheck} {capacity offset : UInt32} {buffer : List UInt8}

theorem readChecked_of_outside (hcheck : ChecksRange check)
    (hcapacity : f.descriptor.capacity = .ok capacity)
    (h : capacity.toNat < offset.toNat + buffer.length) :
    f.readChecked check offset buffer = pure ⟨.error (.error .outOfBounds), buffer⟩ := by
  simp only [readChecked, hcapacity, hcheck.of_outside h]
  rfl

theorem readChecked_of_inside (hcheck : ChecksRange check)
    (hcapacity : f.descriptor.capacity = .ok capacity)
    (h : offset.toNat + buffer.length ≤ capacity.toNat) :
    f.readChecked check offset buffer = f.read offset buffer := by
  simp only [readChecked, hcapacity, hcheck.of_inside h]

/-- A checked read is refused by the trap of the capacity or by the check, or it is the read. -/
theorem readChecked_cases (f : Flash) (check : RangeCheck) (offset : UInt32)
    (buffer : List UInt8) :
    (∃ trap, f.descriptor.capacity = .error trap ∧
      f.readChecked check offset buffer = pure ⟨.error (.trap trap), buffer⟩) ∨
    (∃ capacity, f.descriptor.capacity = .ok capacity ∧
      ((∃ kind : ErrorKind,
        f.readChecked check offset buffer = pure ⟨.error (.error kind.toError), buffer⟩) ∨
      f.readChecked check offset buffer = f.read offset buffer)) := by
  cases hcapacity : f.descriptor.capacity with
  | error trap =>
    refine .inl ⟨trap, rfl, ?_⟩
    simp only [readChecked, hcapacity]
  | ok capacity =>
    refine .inr ⟨capacity, rfl, ?_⟩
    cases hcheck : check readSize capacity.toNat offset.toNat buffer.length with
    | error kind => exact .inl ⟨kind, by simp only [readChecked, hcapacity, hcheck]⟩
    | ok _ => exact .inr (by simp only [readChecked, hcapacity, hcheck])

/-- A checked read is refused, and not by the bus, or it goes one of the ways of a read. -/
theorem readChecked_inStep (f : Flash) (check : RangeCheck) (offset : UInt32)
    (buffer : List UInt8) :
    Drive.InStep ⟨ReadEvent f.geometry, (·.isOfReading = true), (¬ ·.IsBus)⟩ Transfer.Fails
      (fun t _ trace => (∃ e, t.result = .error e) ∧ trace = [] ∨
        f.geometry.Reads offset buffer.length t.result trace)
      (f.readChecked check offset buffer) (f.readChecked check offset buffer) := by
  obtain ⟨trap, -, heq⟩ | ⟨_, -, ⟨kind, heq⟩ | heq⟩ := f.readChecked_cases check offset buffer
  · rw [heq]
    refine .pure (fun e he => ?_) (.inl ⟨⟨_, rfl⟩, rfl⟩)
    cases he
    rintro ⟨code, ⟨⟩⟩
  · rw [heq]
    refine .pure (fun e he => ?_) (.inl ⟨⟨_, rfl⟩, rfl⟩)
    cases he
    rintro ⟨code, hcode⟩
    cases kind <;> cases hcode
  · rw [heq]
    refine ((f.read_inStep offset (Eq.refl buffer.length)).mono
      fun _ _ _ h => .inr h.2).widen ⟨fun _ he => he, fun _ hm => hm, fun e he => ?_⟩
    rintro ⟨code, rfl⟩
    exact Drive.Scope.not_fails_reading _ code he

theorem readChecked_within (f : Flash) (check : RangeCheck) (offset : UInt32)
    (buffer : List UInt8) :
    Drive.Within (ReadEvent f.geometry) (fun _ => True) (f.readChecked check offset buffer) :=
  (f.readChecked_inStep check offset buffer).within.mono (fun _ he => he) fun _ _ => trivial

theorem readChecked_endsAtFault (f : Flash) (check : RangeCheck) (offset : UInt32)
    (buffer : List UInt8) :
    Drive.EndsAtFault (fun t => Run.Reports t.result) (f.readChecked check offset buffer) :=
  (f.readChecked_inStep check offset buffer).endsAtFault fun code h => h ⟨code, rfl⟩

end Flash

end FlashBoot
