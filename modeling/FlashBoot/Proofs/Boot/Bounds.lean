import FlashBoot.Proofs.Boot.Alike
import FlashBoot.Proofs.Catalog

/-!
# What an attempt may do

`Loader.boot_within`: whatever the board does, an attempt on the bus consists of identification,
samples of the recovery pin, an erase and loads (`BootEvent`), and it fails like one of them
(`Loader.BootFailure`).

Lookups that meet no part with more significant bytes than it can hold do not trap, and neither does
anything that comes after a lookup (`Loader.BootFailure.isTrap_eq`).
-/

namespace FlashBoot

namespace Flash

/-! ## Loading both images -/

theorem loadImages_within (f : Flash) (a : Attempt) :
    Drive.Within (LoadEvent f.geometry) (fun report => report.result ≠ .ok .recoveryPerformed ∧
      ∀ e, report.result = .error e → LoadFailure f.geometry e) (f.loadImages a) := by
  have hloads := f.loadImages_inStep (.refl a)
  refine ⟨hloads.does_of_mem, fun b => ⟨(hloads.both b).1.2, fun e he => ?_⟩, hloads.within.board⟩
  exact or_assoc.2 (hloads.within.value b e he)

/-! ## Failures that are no traps -/

theorem EraseFailure.isTrap_eq {e : Failure} (h : EraseFailure e) : e.isTrap = false := by
  obtain ⟨_, rfl⟩ | rfl | rfl := h <;> rfl

theorem ReadFailure.isTrap_eq {d : Descriptor} (hd : d.Addressable) {e : Failure}
    (h : ReadFailure d.geometry e) : e.isTrap = false := by
  obtain ⟨_, rfl⟩ | rfl | ⟨t, rfl, ht⟩ := h
  · rfl
  · rfl
  · exact absurd ht (hd.not_traps t)

theorem LoadFailure.isTrap_eq {d : Descriptor} (hd : d.Addressable) {e : Failure}
    (h : LoadFailure d.geometry e) : e.isTrap = false := by
  obtain h | rfl := h
  · exact h.isTrap_eq hd
  · rfl

end Flash

/-- Without oversized parts of the board, every lookup ends well. -/
theorem IdentifyFailure.isTrap_eq {build : Build} {custom : List Part}
    (hcustom : ∀ p ∈ custom, p.idLength ≤ 6) {e : Failure}
    (h : IdentifyFailure (build.candidates custom) e) : e.isTrap = false := by
  obtain ⟨_, rfl⟩ | ⟨_, rfl⟩ | ⟨t, id, -, hfind⟩ := h
  · rfl
  · rfl
  · rw [Part.find?_eq (Build.idLength_candidates hcustom)] at hfind
    cases hfind

/-! ## The attempt -/

/-- What is seen of an attempt between the calls of the controller. -/
inductive BootEvent (e : Event) : Prop
  | identify : e.Issues identifyOpcodes → BootEvent e
  | recover (i : Interface) : Flash.RecoverEvent i e → BootEvent e
  | load (g : Geometry) : Flash.LoadEvent g e → BootEvent e

namespace Loader

/-- An attempt fails like identification, like an erase, or like loading from the device that was
identified. -/
inductive BootFailure (l : Loader) (e : Failure) : Prop
  | identify : IdentifyFailure (l.build.candidates l.config.customParts) e → BootFailure l e
  | erase : Flash.EraseFailure e → BootFailure l e
  | load (d : Descriptor) : d.Addressable → Flash.LoadFailure d.geometry e → BootFailure l e

theorem BootFailure.isTrap_eq {l : Loader} (hcustom : ∀ p ∈ l.config.customParts, p.idLength ≤ 6)
    {e : Failure} (h : l.BootFailure e) : e.isTrap = false := by
  cases h with
  | identify h => exact h.isTrap_eq hcustom
  | erase h => exact h.isTrap_eq
  | load d hd h => exact h.isTrap_eq hd

/-- What an attempt does on the bus, logs and reports. -/
def booting (l : Loader) : Drive.Scope where
  does := BootEvent
  tells _ := True
  fails := l.BootFailure

theorem boots_booting (l : Loader) (signal : Signal) : l.Boots signal l.booting where
  identification := ⟨fun _ => .identify, fun _ _ => trivial, fun _ he => .identify (.inr he)⟩
  sampling := ⟨fun _ he => .recover .nor (.inr he), fun _ _ => trivial, fun _ => False.elim⟩
  erasing _ _ i :=
    ⟨fun _ he => .recover i (.inl he), fun _ _ => trivial, fun _ he => .erase (.inr he)⟩
  loading f hf := ⟨fun _ => .load f.geometry, fun _ _ => trivial, fun _ he =>
    .load f.descriptor hf.descriptor.addressable (he.imp_left .inr)⟩

theorem boot_within (l : Loader) (a : Attempt) :
    Drive.Within BootEvent (fun report => ∀ e, report.result = .error e → l.BootFailure e)
      (l.boot a) :=
  (boot_inStep (l.boots_booting a.signal) (.refl a)).within.mono (fun _ he => he)
    fun _ h e he => (h e he).elim (fun hbus => .identify (.inl hbus)) fun hfail => hfail

/-- What is seen of a whole attempt: around the rest there are only the calls of the controller. -/
def AttemptEvent (e : Event) : Prop := BootEvent e ∨ ∃ call, e = .controller call

theorem mem_load_events (l : Loader) (a : Attempt) (b : Board) :
    ∀ e ∈ (l.load a b).events, AttemptEvent e := by
  intro e he
  have hcalls : ∀ call, e ∈ l.controller.calls call → AttemptEvent e :=
    fun call hmem => .inr ⟨call, l.controller.eq_of_mem_calls hmem⟩
  by_cases hinit : l.controller = .switched false
  · rw [(load_goes_of_failing hinit a b).events, List.mem_singleton] at he
    exact .inr ⟨_, he⟩
  · rw [(load_goes (a := a) (b := b) hinit ⟨rfl, rfl, rfl⟩).events] at he
    simp only [List.mem_append] at he
    obtain he | he | he | he := he
    · exact hcalls _ he
    · exact hcalls _ he
    · exact .inl ((boot_within l a).events b e he)
    · split at he
      · cases he
      · exact hcalls _ he

/-- An attempt on the bus never stops the machine. -/
theorem isTrap_boot {l : Loader} (hcustom : ∀ p ∈ l.config.customParts, p.idLength ≤ 6)
    (a : Attempt) (b : Board) : (l.boot a b).value.isTrap = false := by
  have hfail := (boot_within l a).value b
  unfold Report.isTrap
  cases hr : (l.boot a b).value.result with
  | ok _ => rfl
  | error e => exact (hfail e hr).isTrap_eq hcustom

end Loader

end FlashBoot
