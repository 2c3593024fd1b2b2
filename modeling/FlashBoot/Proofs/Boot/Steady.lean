import FlashBoot.Proofs.Boot.Alike
import FlashBoot.Proofs.Boot.Loading

/-!
# Attempts on steady boards

Identification and reading take alike boards for one, since the only status register they read is
that of a DataFlash. So does an attempt that is not asked for recovery (`Loader.load_steady`): on a
steady board it reports and does the same at any time, and leaves the board steady for the next one.
-/

namespace FlashBoot

/-- What sends other opcodes only does not read the SPI NOR status. -/
theorem Drive.Scope.le_steady {s : Drive.Scope} {opcodes : List Opcode}
    (hs : ∀ t, s.does (.transaction t) → Event.Sends opcodes (.transaction t))
    (hnot : .norStatus ∉ opcodes) : s ≤ .steady := by
  refine ⟨fun e he t ht hopcode => ?_, fun _ _ => trivial, fun _ _ => trivial⟩
  obtain ⟨o, ho, hsent⟩ := hs t (ht ▸ he)
  exact hnot (Opcode.byte_injective (hopcode.symm.trans hsent) ▸ ho)

theorem Drive.Scope.identification_le_steady (candidates : List Part) :
    identification candidates ≤ .steady :=
  le_steady (fun _ ht => ht.sends) (by decide)

theorem Drive.Scope.loading_le_steady (g : Geometry) : loading g ≤ .steady := by
  have hsends : ∀ t, (loading g).does (.transaction t) →
      Event.Sends [.fastRead] (.transaction t) := by
    intro t ht
    rcases ht with hread | ⟨_, _, ⟨⟩⟩
    exact hread.issues.sends
  exact le_steady hsends (by decide)

namespace Flash

theorem probe_steady (build : Build) (config : Config) : Run.Steady (probe build config) :=
  Drive.InStep.steady (probe_confined build config) (Drive.Scope.identification_le_steady _)

theorem copyImage_steady (f : Flash) (r : Request) (n : UInt32) : (f.copyImage r n).Steady :=
  (f.copyImage_inStep n rfl (Eq.refl r.destination.length)).steady
    (Drive.Scope.loading_le_steady f.geometry)

theorem discoverLength_steady (f : Flash) (headers : HeaderParser) (r : Request) :
    (f.discoverLength headers r).Steady :=
  (f.discoverLength_inStep headers (.refl r)).steady (Drive.Scope.loading_le_steady f.geometry)

theorem loadImage_steady (f : Flash) (headers : HeaderParser) (r : Request) :
    (f.loadImage headers r).Steady :=
  (f.loadImage_inStep headers (.refl r)).steady (Drive.Scope.loading_le_steady f.geometry)

end Flash

/-! ## The attempt -/

namespace Loader

variable {l : Loader} {a : Attempt} {signal : Signal}

/-- Without an erase nothing reads the SPI NOR status. -/
theorem boots_steady (h : l.build.recovery = true → signal.asserted = false) :
    l.Boots signal .steady where
  identification := Drive.Scope.identification_le_steady _
  sampling := by
    refine ⟨?_, fun _ _ => trivial, fun _ _ => trivial⟩
    rintro _ ⟨_, rfl⟩ t ⟨⟩
  erasing hbuild hasked := by cases hasked.symm.trans (h hbuild)
  loading f _ := Drive.Scope.loading_le_steady f.geometry

theorem boot_steady (h : l.build.recovery = true → a.signal.asserted = false) :
    (l.boot a).Steady :=
  (boot_inStep (boots_steady h) (.refl a)).steady (.refl _)

/-- An attempt that is not asked for recovery takes alike boards for one. -/
theorem load_steady (h : l.build.recovery = true → a.signal.asserted = false) :
    (l.load a).Steady := by
  by_cases hinit : l.controller = .switched false
  · refine ⟨fun b b' _ => ?_, fun b b' _ => ?_, fun b hb => ?_⟩
    · rw [load_of_failing hinit, load_of_failing hinit]
    · rw [load_of_failing hinit, load_of_failing hinit]
    · rwa [load_of_failing hinit]
  · have hboot := boot_steady h
    refine ⟨fun b b' hb => ?_, fun b b' hb => ?_, fun b hb => ?_⟩
    · rw [load_eq_between hinit, load_eq_between hinit]
      exact hboot.value b b' hb
    · rw [load_eq_between hinit, load_eq_between hinit, Outcome.trace_between,
        Outcome.trace_between, hboot.value b b' hb, hboot.trace b b' hb]
    · rw [load_eq_between hinit]
      exact hboot.board b hb

end Loader

/-- The board with an M25P is steady. -/
theorem Board.alike_m25p : Board.m25p.Alike .m25p :=
  ⟨rfl, rfl, rfl, rfl, rfl, fun i j => by simp [m25p, blank, StatusScript.ofBytes]⟩

end FlashBoot
