import FlashBoot.Flash
import FlashBoot.Proofs.Bus
import FlashBoot.Proofs.Geometry.Address
import FlashBoot.Proofs.Trace.Kinds

/-!
# What identification does and finds

`Flash.probe_confined` follows identification through its functions: it reads the identifier and
perhaps the DataFlash status and does nothing else, and it fails by the bus, by an unknown device,
or by the trap of the part lookup (`Drive.Scope.identification`). The device it finds is linear, or
a DataFlash with a page-multiplied geometry of the density table (`Flash.Known`), so every offset of
it can be addressed (`Descriptor.Addressable`).
-/

namespace FlashBoot

/-- The opcodes identification sends. -/
def identifyOpcodes : List Opcode := [.readId, .dataflashStatus]

/-- The flat offsets of the device are its addresses, or its pages fit their byte field. -/
def Descriptor.Addressable (d : Descriptor) : Prop :=
  d.geometry.mode = .linear ∨ d.geometry.Paged

theorem Descriptor.Addressable.not_traps {d : Descriptor} (h : d.Addressable) (t : Trap) :
    ¬ d.geometry.Traps t := by
  rintro ⟨offset, htrap⟩
  obtain hlinear | hpaged := h
  · rw [Address.ofOffset_linear hlinear] at htrap
    cases htrap
  · rw [hpaged.ofOffset_eq] at htrap
    cases htrap

/-- The geometry is linear, or that of a DataFlash which keeps its own page size. -/
def Geometry.Known (g : Geometry) : Prop :=
  g.mode = .linear ∨ ∃ density ∈ Density.table, g = density.geometry false

/-- A geometry that is known, and without a part unless it is linear. -/
structure Descriptor.Known (d : Descriptor) : Prop where
  geometry : d.geometry.Known
  part : d.geometry.mode = .pageMultiplied → d.part = none

theorem Descriptor.Known.addressable {d : Descriptor} (h : d.Known) : d.Addressable := by
  obtain hlinear | ⟨density, hmem, hg⟩ := h.geometry
  · exact .inl hlinear
  · exact .inr (hg ▸ Density.paged hmem)

/-- Identification fails by the bus, by an unknown device, or by the trap of the lookup. -/
def IdentifyFailure (candidates : List Part) (f : Failure) : Prop :=
  f.IsBus ∨ (∃ cause, f = .error (.probe cause)) ∨
    ∃ t id, f = .trap t ∧ Part.find? id candidates = .error t

/-- No more than identification takes. -/
def Drive.Scope.identification (candidates : List Part) : Drive.Scope where
  does := Event.Issues identifyOpcodes
  tells m := m.isOfReading = false
  fails f := (∃ cause, f = .error (.probe cause)) ∨
    ∃ t id, f = .trap t ∧ Part.find? id candidates = .error t

theorem Drive.Scope.not_fails_identification (candidates : List Part) (code : UInt8) :
    ¬ (identification candidates).fails (.error (.bus code)) := by
  rintro (⟨_, ⟨⟩⟩ | ⟨_, _, ⟨⟩, -⟩)

namespace Device

/-- A status register that tells a geometry tells that of a density. -/
theorem exists_density {s : DataflashStatus} {g : Geometry} (h : s.geometry = .ok g) :
    ∃ d ∈ Density.table, g = d.geometry s.powerOfTwo := by
  unfold DataflashStatus.geometry at h
  split at h
  case h_1 d hd => exact ⟨d, List.mem_of_find?_eq_some hd, (Except.ok.inj h).symm⟩
  case h_2 => cases h

theorem known_of_geometry {s : DataflashStatus} {g : Geometry} (h : s.geometry = .ok g) :
    g.Known := by
  obtain ⟨d, hd, rfl⟩ := exists_density h
  cases s.powerOfTwo with
  | true => exact .inl rfl
  | false => exact .inr ⟨d, hd, rfl⟩

variable {candidates : List Part}

theorem lookupFamily_confined (id : JedecId) :
    Run.Confined (.identification candidates) (fun _ => True) (lookupFamily id) := by
  unfold lookupFamily
  split
  · exact .pure trivial
  · refine .log_bind ?_ ?_ (.fail (.inl ⟨_, rfl⟩))
    · split <;> rfl
    · split <;> rfl

theorem probeDensity_confined :
    Run.Confined (.identification candidates) Geometry.Known probeDensity := by
  have hread : Run.Confined (.identification candidates) (fun _ => True)
      (Bus.readRegister .dataflashStatus) :=
    Bus.readRegister_confined
      (Event.issues_of_mem (o := .dataflashStatus) (by simp [identifyOpcodes]) rfl (by simp))
  refine .bind hread fun byte _ => ?_
  dsimp only
  split
  case h_1 g hg => exact .pure (known_of_geometry hg)
  case h_2 => exact .log_bind rfl rfl (.fail (.inl ⟨_, rfl⟩))

theorem describe_confined (id : JedecId) (init : Initializer) :
    Run.Confined (.identification candidates) Descriptor.Known (describe id init) := by
  cases init with
  | fixed fixed => exact .pure ⟨.inl rfl, nofun⟩
  | statusProbe => exact .bind probeDensity_confined fun g hg => .pure ⟨hg, fun _ => rfl⟩

theorem identifyFamily_confined (id : JedecId) :
    Run.Confined (.identification candidates) Descriptor.Known (identifyFamily id) := by
  refine .bind (lookupFamily_confined id) fun init _ => ?_
  refine .bind (describe_confined id init) fun d hd => ?_
  exact .log_bind rfl rfl (.pure hd)

theorem identify_confined (candidates : List Part) :
    Run.Confined (.identification candidates) Descriptor.Known (identify candidates) := by
  have hid : Run.Confined (.identification candidates) (fun _ => True) Bus.readId :=
    Bus.readId_confined
      (Event.issues_of_mem (o := .readId) (by simp [identifyOpcodes]) rfl (by simp))
  refine .bind hid fun id _ => .log_bind rfl rfl ?_
  have hfind : Run.Confined (.identification candidates) (fun _ => True)
      (Run.ofChecked (Part.find? id candidates)) := by
    refine .ofExcept (fun _ _ => trivial) fun e he => ?_
    cases hf : Part.find? id candidates with
    | ok _ =>
      rw [hf] at he
      cases he
    | error t =>
      rw [hf] at he
      cases he
      exact .inr ⟨t, id, rfl, hf⟩
  refine .bind hfind fun found _ => ?_
  cases found with
  | some part => exact .log_bind rfl rfl (.pure ⟨.inl rfl, nofun⟩)
  | none => exact identifyFamily_confined id

end Device

namespace Flash

/-- A known device, whose reads are split as the configuration says. -/
structure Known (config : Config) (f : Flash) : Prop where
  descriptor : f.descriptor.Known
  maxTransfer : f.maxTransfer = max config.maxTransfer 1

theorem probe_confined (build : Build) (config : Config) :
    Run.Confined (.identification (build.candidates config.customParts)) (Known config)
      (probe build config) :=
  .bind (Device.identify_confined _) fun _ hd => .pure ⟨hd, rfl⟩

theorem probe_known (build : Build) (config : Config) :
    Run.Within (Event.Issues identifyOpcodes) (Known config)
      (IdentifyFailure (build.candidates config.customParts)) (probe build config) :=
  (probe_confined build config).within

theorem probe_within (build : Build) (config : Config) :
    Run.Within (Event.Issues identifyOpcodes) (fun f => f.descriptor.Addressable)
      (IdentifyFailure (build.candidates config.customParts)) (probe build config) :=
  (probe_known build config).mono (fun _ he => he) (fun _ hf => hf.descriptor.addressable)
    fun _ hf => hf

theorem probe_sends (build : Build) (config : Config) (b : Board) :
    ∀ e ∈ (probe build config b).events, e.Sends identifyOpcodes :=
  fun e he => ((probe_known build config).events b e he).sends

end Flash

end FlashBoot
