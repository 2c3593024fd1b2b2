import FlashBoot.Proofs.Device.Identification
import FlashBoot.Proofs.Flash.Erase

/-!
# The path of identification

What identification comes to is known from the identifier and the DataFlash status register:
`IdentifyPath` lists the ways it can go. On a quiet board it goes one of them (`identify_path`), and
a fault only cuts it short (`identify_endsAtFault`), so an identification that finds a device has
gone its way to the end (`identifyPath_of_ok`).
-/

namespace FlashBoot

namespace Device

/-- The ways identification can go when the device answers `id` and its DataFlash status register
shows `status`: its result and its events. -/
inductive IdentifyPath (candidates : List Part) (id : JedecId) (status : DataflashStatus) :
    Except Failure Descriptor → List Event → Prop
  /-- The lookup meets a part that claims more bytes than it can hold. -/
  | trap {t : Trap} : Part.find? id candidates = .error t →
      IdentifyPath candidates id status (.error (.trap t)) [.fetched [Opcode.readId.byte] 5]
  /-- The device is a candidate part. -/
  | part {p : Part} : Part.find? id candidates = .ok (some p) →
      IdentifyPath candidates id status (.ok (.ofPart id p)) [.fetched [Opcode.readId.byte] 5]
  /-- The device belongs to no known family. -/
  | unknown {cause : ProbeFailure} : Part.find? id candidates = .ok none →
      Family.lookup id.manufacturer id.family = .error cause →
      IdentifyPath candidates id status (.error (.error (.probe cause)))
        [.fetched [Opcode.readId.byte] 5]
  /-- The family fixes the geometry. -/
  | fixed {g : FixedGeometry} : Part.find? id candidates = .ok none →
      Family.lookup id.manufacturer id.family = .ok (.fixed g) →
      IdentifyPath candidates id status
        (.ok (.ofFamily id (.linear g.pages g.pageSize) g.interface))
        [.fetched [Opcode.readId.byte] 5]
  /-- The density code of a DataFlash has no geometry. -/
  | density {cause : ProbeFailure} : Part.find? id candidates = .ok none →
      Family.lookup id.manufacturer id.family = .ok .statusProbe →
      status.geometry = .error cause →
      IdentifyPath candidates id status (.error (.error (.probe cause)))
        [.fetched [Opcode.readId.byte] 5, .asked .dataflashStatus]
  /-- A DataFlash tells its geometry. -/
  | dataflash {g : Geometry} : Part.find? id candidates = .ok none →
      Family.lookup id.manufacturer id.family = .ok .statusProbe → status.geometry = .ok g →
      IdentifyPath candidates id status (.ok (.ofFamily id g .dataflash))
        [.fetched [Opcode.readId.byte] 5, .asked .dataflashStatus]

variable {candidates : List Part}

/-! ## Without faults -/

theorem lookupFamily_goes (id : JedecId) (b : Board) :
    Run.Goes (lookupFamily id) b
      ((Family.lookup id.manufacturer id.family).mapError fun cause => .error (.probe cause)) b
      [] := by
  unfold lookupFamily
  cases Family.lookup id.manufacturer id.family with
  | ok init => exact .pure _ _
  | error cause => exact .log_bind (.fail _ _)

/-- The status register decides about the geometry. -/
theorem probeDensity_goes_of_read {b b' : Board} {s : UInt8} {es : List Event}
    (h : Run.Goes (Bus.readRegister .dataflashStatus) b (.ok s) b' es) :
    Run.Goes probeDensity b
      ((DataflashStatus.ofByte s).geometry.mapError fun cause => .error (.probe cause)) b' es := by
  refine .bind_silent h ?_
  dsimp only
  cases (DataflashStatus.ofByte s).geometry with
  | ok g => exact .pure _ _
  | error cause => exact .log_bind (.fail _ _)

theorem probeDensity_goes (b : Board) :
    Run.Goes probeDensity b.quiet
      ((b.dataflash 0).geometry.mapError fun cause => .error (.probe cause))
      (b.skip .dataflash 1).quiet [.asked .dataflashStatus] :=
  probeDensity_goes_of_read (Flash.readDataflash_goes b)

section
variable {id : JedecId} {b b₁ b₂ : Board} {es es' : List Event}
  (hid : Run.Goes Bus.readId b (.ok id) b₁ es)
include hid

theorem identify_goes_of_trap {t : Trap} (hfind : Part.find? id candidates = .error t) :
    Run.Goes (identify candidates) b (.error (.trap t)) b₁ es := by
  have hlookup : Run.Goes (Run.ofChecked (Part.find? id candidates)) b₁ (.error (.trap t)) b₁ [] :=
    hfind ▸ ⟨rfl, rfl, rfl⟩
  exact .bind_silent hid (.log_bind (.bind_error hlookup))

theorem identify_goes_of_part {p : Part} (hfind : Part.find? id candidates = .ok (some p)) :
    Run.Goes (identify candidates) b (.ok (.ofPart id p)) b₁ es := by
  have hlookup : Run.Goes (Run.ofChecked (Part.find? id candidates)) b₁ (.ok (some p)) b₁ [] :=
    hfind ▸ ⟨rfl, rfl, rfl⟩
  exact .bind_silent hid (.log_bind (.bind hlookup (.log_bind (.pure _ _))))

/-- A device that is no candidate part is built from its family. -/
theorem identify_goes_of_family {r : Except Failure Descriptor}
    (hfind : Part.find? id candidates = .ok none)
    (h : Run.Goes (identifyFamily id) b₁ r b₂ es') :
    Run.Goes (identify candidates) b r b₂ (es ++ es') := by
  have hlookup : Run.Goes (Run.ofChecked (Part.find? id candidates)) b₁ (.ok none) b₁ [] :=
    hfind ▸ ⟨rfl, rfl, rfl⟩
  exact .bind hid (.log_bind (.bind hlookup h))

end

section
variable {id : JedecId} {b : Board}

theorem identifyFamily_goes_of_unknown {cause : ProbeFailure} (b : Board)
    (h : Family.lookup id.manufacturer id.family = .error cause) :
    Run.Goes (identifyFamily id) b (.error (.error (.probe cause))) b [] := by
  have hlookup := lookupFamily_goes id b
  rw [h] at hlookup
  exact .bind_error hlookup

theorem identifyFamily_goes_of_fixed {g : FixedGeometry} (b : Board)
    (h : Family.lookup id.manufacturer id.family = .ok (.fixed g)) :
    Run.Goes (identifyFamily id) b
      (.ok (.ofFamily id (.linear g.pages g.pageSize) g.interface)) b [] := by
  have hlookup := lookupFamily_goes id b
  rw [h] at hlookup
  exact .bind hlookup (.bind (.pure _ _) (.log_bind (.pure _ _)))

theorem identifyFamily_goes_of_statusProbe {b b' : Board} {r : Except Failure Geometry}
    {es : List Event} (h : Family.lookup id.manufacturer id.family = .ok .statusProbe)
    (hprobe : Run.Goes probeDensity b r b' es) :
    Run.Goes (identifyFamily id) b (r.map (.ofFamily id · .dataflash)) b' es := by
  have hlookup := lookupFamily_goes id b
  rw [h] at hlookup
  cases r with
  | error e => exact .bind hlookup (.bind_error (.bind_error hprobe))
  | ok g =>
    exact .bind hlookup (.bind_silent (.bind_silent hprobe (.pure _ _)) (.log_bind (.pure _ _)))

end

/-- What follows when no candidate part matches. -/
theorem identifyFamily_path (b : Board)
    (hnone : Part.find? (.ofBytes b.id) candidates = .ok none) :
    ∃ r b' es, IdentifyPath candidates (.ofBytes b.id) (b.dataflash 0) r
        (.fetched [Opcode.readId.byte] 5 :: es) ∧
      Run.Goes (identifyFamily (.ofBytes b.id)) b.quiet r b' es := by
  cases hf : Family.lookup (JedecId.ofBytes b.id).manufacturer (JedecId.ofBytes b.id).family with
  | error cause => exact ⟨_, _, _, .unknown hnone hf, identifyFamily_goes_of_unknown _ hf⟩
  | ok init =>
    cases init with
    | fixed g => exact ⟨_, _, _, .fixed hnone hf, identifyFamily_goes_of_fixed _ hf⟩
    | statusProbe =>
      have hgoes := identifyFamily_goes_of_statusProbe hf (probeDensity_goes b)
      cases hg : (b.dataflash 0).geometry with
      | error cause =>
        rw [hg] at hgoes
        exact ⟨_, _, _, .density hnone hf hg, hgoes⟩
      | ok g =>
        rw [hg] at hgoes
        exact ⟨_, _, _, .dataflash hnone hf hg, hgoes⟩

/-- Without faults identification goes one of its ways. -/
theorem identify_path (candidates : List Part) (b : Board) :
    ∃ r b' es, IdentifyPath candidates (.ofBytes b.id) (b.dataflash 0) r es ∧
      Run.Goes (identify candidates) b.quiet r b' es := by
  have hid := Bus.readId_goes b
  cases hfind : Part.find? (.ofBytes b.id) candidates with
  | error t => exact ⟨_, _, _, .trap hfind, identify_goes_of_trap hid hfind⟩
  | ok found =>
    cases found with
    | some p => exact ⟨_, _, _, .part hfind, identify_goes_of_part hid hfind⟩
    | none =>
      obtain ⟨r, b', es, hpath, hgoes⟩ := identifyFamily_path b hfind
      exact ⟨r, b', _, hpath, identify_goes_of_family hid hfind hgoes⟩

/-! ## Under faults -/

theorem identify_endsAtFault (candidates : List Part) :
    Run.EndsAtFault (identify candidates) :=
  (identify_confined candidates).endsAtFault (Drive.Scope.not_fails_identification candidates)

/-- On any board, an identification that finds a device has gone its way to the end. -/
theorem identifyPath_of_ok {b : Board} {d : Descriptor}
    (h : (identify candidates b).value = .ok d) :
    IdentifyPath candidates (.ofBytes b.id) (b.dataflash 0) (.ok d)
      (identify candidates b).events := by
  obtain ⟨r, b', es, hpath, hgoes⟩ := identify_path candidates b
  obtain ⟨-, ⟨hv, hes⟩ | ⟨code, hr, -⟩⟩ :=
    Drive.EndsAtFault.follows_goes (identify_endsAtFault candidates) hgoes
  · have hr : r = .ok d := hv.symm.trans h
    change (identify candidates b).events = es at hes
    rw [hes, ← hr]
    exact hpath
  · -- a fault would have been reported in place of the device
    cases h.symm.trans hr

end Device

namespace Flash

/-- A device that is identified was identified by its descriptor. -/
theorem identify_of_probe {build : Build} {config : Config} {b : Board} {f : Flash}
    (h : (probe build config b).value = .ok f) :
    (Device.identify (build.candidates config.customParts) b).value = .ok f.descriptor ∧
      f.maxTransfer = max config.maxTransfer 1 := by
  unfold probe at h
  rw [Run.bind_apply] at h
  cases hd : (Device.identify (build.candidates config.customParts) b).value with
  | error e =>
    rw [hd] at h
    cases h
  | ok d =>
    rw [hd] at h
    cases h
    exact ⟨rfl, rfl⟩

theorem probe_endsAtFault (build : Build) (config : Config) :
    Run.EndsAtFault (Flash.probe build config) :=
  (probe_confined build config).endsAtFault (Drive.Scope.not_fails_identification _)

end Flash

end FlashBoot
