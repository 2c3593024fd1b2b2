import FlashBoot.Proofs.Boot
import FlashBoot.Proofs.Boot.Bounds
import FlashBoot.Proofs.Boot.Loading
import FlashBoot.Proofs.Device.Invariant
import FlashBoot.Proofs.Flash.CheckedRead
import FlashBoot.Proofs.Image.Header

/-!
# What stops the machine

A trap can come from two places only. One is the lookup of a part that claims more identifier bytes
than it can hold: it is met when nothing before it matches the identifier (`Flash.probe_traps_iff`).
The other is the size of a part that is no word, which the bounds of a flash are computed from
(`Descriptor.Oversized`). An identified flash has no other (`Flash.TrapFree`).

`Loader.trapFree` puts this together: with parts of the board that can hold what they claim, nothing
stops an attempt on any board.
-/

namespace FlashBoot

/-- The machine stopped. -/
def Run.Traps {α : Type} (r : Except Failure α) : Prop := ∃ t, r = .error (.trap t)

theorem Run.not_traps {α : Type} {r : Except Failure α} (h : ∀ e, r = .error e → e.isTrap = false) :
    ¬ Traps r := by
  rintro ⟨t, rfl⟩
  cases h _ rfl

/-! ## Identification -/

namespace Device

variable {candidates : List Part}

theorem not_traps_identifyFamily (id : JedecId) (b : Board) :
    ¬ Run.Traps (identifyFamily id b).value := by
  rintro ⟨t, ht⟩
  obtain ⟨code, hcode⟩ | ⟨cause, hcause⟩ | ⟨t', id', -, hfind⟩ :=
    (@identifyFamily_confined [] id).within.failure_of_error ht
  · cases hcode
  · cases hcause
  · cases hfind

/-- Identification stops the machine exactly when the lookup of the identifier does. -/
theorem identify_traps_iff (b : Board) : Run.Traps (identify candidates b).value ↔
    ∃ id, (Bus.readId b).value = .ok id ∧ ∃ t, Part.find? id candidates = .error t := by
  unfold identify
  rw [Run.bind_apply]
  cases hid : (Bus.readId b).value with
  | error e =>
    -- without an identifier there is no lookup, and the failure is one of the bus
    have hread : Run.Confined ⟨fun _ => True, fun _ => True, fun _ => False⟩ (fun _ => True)
        Bus.readId :=
      Bus.readId_confined fun _ => trivial
    obtain ⟨code, rfl⟩ := (hread.within.failure_of_error hid).resolve_right id
    constructor
    · rintro ⟨t, ht⟩
      cases ht
    · rintro ⟨id, ⟨⟩, -⟩
  | ok id =>
    simp only [Run.bind_apply]
    cases hfind : Part.find? id candidates with
    | error t =>
      constructor
      · intro _
        exact ⟨id, rfl, t, hfind⟩
      · intro _
        exact ⟨t, rfl⟩
    | ok found =>
      have hnot : ¬ ∃ id', (.ok id : Except Failure JedecId) = .ok id' ∧
          ∃ t, Part.find? id' candidates = .error t := by
        rintro ⟨id', heq, t, ht⟩
        obtain rfl := Except.ok.inj heq
        cases hfind.symm.trans ht
      refine iff_of_false ?_ hnot
      cases found with
      | some p =>
        rintro ⟨t, ht⟩
        cases ht
      | none => exact not_traps_identifyFamily id _

end Device

namespace Flash

theorem probe_traps_iff {build : Build} {config : Config} (b : Board) :
    Run.Traps (probe build config b).value ↔ ∃ id, (Bus.readId b).value = .ok id ∧
      ∃ t, Part.find? id (build.candidates config.customParts) = .error t := by
  rw [← Device.identify_traps_iff]
  unfold probe
  rw [Run.bind_apply]
  cases (Device.identify (build.candidates config.customParts) b).value with
  | error e =>
    constructor
    · rintro ⟨t, ht⟩
      exact ⟨t, congrArg _ (Except.error.inj ht)⟩
    · rintro ⟨t, ht⟩
      exact ⟨t, congrArg _ (Except.error.inj ht)⟩
  | ok d =>
    constructor
    · rintro ⟨t, ht⟩
      cases ht
    · rintro ⟨t, ht⟩
      cases ht

end Flash

/-! ## Identified flashes -/

/-- The part of a device has more bytes than a word can count. -/
def Descriptor.Oversized (d : Descriptor) : Prop :=
  ∃ p, d.part = some p ∧ 2 ^ 32 ≤ p.sectorSize.toNat * p.sectorCount.toNat

/-- Nothing that is done with a flash stops the machine, but for what needs the size of a device
that is oversized. -/
structure Flash.TrapFree (f : Flash) : Prop where
  /-- A read has chunks of some size. -/
  maxTransfer : 0 < f.maxTransfer
  read : ∀ offset buffer b, ¬ Run.Traps (f.read offset buffer b).value.result
  unprotect : ∀ b, ¬ Run.Traps (unprotect b).value
  erasePage0 : ∀ config b, ¬ Run.Traps (f.erasePage0 config b).value
  recover : ∀ signal config b, ¬ Run.Traps (f.recover signal config b).value
  capacity : (∃ t, f.descriptor.capacity = .error t) ↔ f.descriptor.Oversized
  readWithin : ∀ offset buffer b,
    Run.Traps (f.readWithin offset buffer b).value.result ↔ f.descriptor.Oversized

namespace Flash

theorem not_traps_read {f : Flash} (hf : f.descriptor.Addressable) (offset : UInt32)
    (buffer : List UInt8) (b : Board) : ¬ Run.Traps (f.read offset buffer b).value.result :=
  Run.not_traps fun e he => ((read_within f offset buffer).value b e he).isTrap_eq hf

theorem not_traps_of_eraseFailure {α : Type} {E : Event → Prop} {S : α → Prop} {x : Run α}
    (h : Run.Within E S EraseFailure x) (b : Board) : ¬ Run.Traps (x b).value :=
  Run.not_traps fun _ he => (h.failure_of_error he).isTrap_eq

/-- A bounded read stops the machine exactly when its bound does. -/
theorem readWithin_traps_iff {f : Flash} (hf : f.descriptor.Addressable) (offset : UInt32)
    (buffer : List UInt8) (b : Board) : Run.Traps (f.readWithin offset buffer b).value.result ↔
      ∃ t, f.descriptor.capacity = .error t := by
  obtain ⟨t, hc, heq⟩ | ⟨capacity, hc, ⟨kind, heq⟩ | heq⟩ :=
    f.readChecked_cases checkSlice offset buffer
  · rw [readWithin, heq]
    exact iff_of_true ⟨t, rfl⟩ ⟨t, hc⟩
  · rw [readWithin, heq, hc]
    refine iff_of_false ?_ nofun
    rintro ⟨t, ⟨⟩⟩
  · rw [readWithin, heq, hc]
    exact iff_of_false (not_traps_read hf offset buffer b) nofun

theorem trapFree_of_probe {build : Build} {config : Config} {b : Board} {f : Flash}
    (h : (probe build config b).value = .ok f) : f.TrapFree := by
  obtain ⟨hd, hmax⟩ := identify_of_probe h
  have hf := (probe_within build config).value_of_ok h
  have hcapacity := (Device.invariant_of_ok hd).capacity_eq_error_iff
  constructor
  case maxTransfer =>
    rw [hmax]
    omega
  case read => exact not_traps_read hf
  case unprotect => exact not_traps_of_eraseFailure unprotect_within
  case erasePage0 => exact fun config => not_traps_of_eraseFailure (erasePage0_within f config)
  case recover =>
    exact fun signal config => not_traps_of_eraseFailure (recover_within f signal config)
  case capacity => exact hcapacity
  case readWithin =>
    intro offset buffer b'
    exact (readWithin_traps_iff hf offset buffer b').trans hcapacity

end Flash

/-! ## Attempts -/

namespace Loader

theorem not_traps_load {l : Loader} (hcustom : ∀ p ∈ l.config.customParts, p.idLength ≤ 6)
    (a : Attempt) (b : Board) : ¬ Run.Traps (l.load a b).value.result := by
  by_cases hinit : l.controller = .switched false
  · rw [(load_goes_of_failing hinit a b).value]
    rintro ⟨t, ⟨⟩⟩
  · have hload := load_goes (a := a) (b := b) hinit ⟨rfl, rfl, rfl⟩
    rw [hload.value]
    exact Run.not_traps fun e he => ((boot_within l a).value b e he).isTrap_eq hcustom

/-- Without parts that claim too many bytes nothing stops an attempt or identification. With one,
identification stops exactly when the identifier is read and nothing before the first such part
matches it. Nothing that is done with an identified flash stops the machine, but for the bounds of
an oversized part, which no built-in part is. The density table shifts within a word, and header
lengths are what the headers say. -/
theorem trapFree (l : Loader) :
    ((∀ p ∈ l.config.customParts, p.idLength ≤ 6) →
      (∀ a b, ¬ Run.Traps (l.load a b).value.result) ∧
      ∀ b, ¬ Run.Traps (Flash.probe l.build l.config b).value) ∧
    (∀ pre p rest, l.config.customParts = pre ++ p :: rest → (∀ q ∈ pre, q.idLength ≤ 6) →
      6 < p.idLength → ∀ b, Run.Traps (Flash.probe l.build l.config b).value ↔
        ∃ id, (Bus.readId b).value = .ok id ∧ ∀ q ∈ l.build.parts ++ pre, ¬ q.Matches id) ∧
    (∀ b f, (Flash.probe l.build l.config b).value = .ok f → f.TrapFree) ∧
    (∀ p ∈ l.build.parts, p.sectorSize.toNat * p.sectorCount.toNat < 2 ^ 32) ∧
    (∀ d ∈ Density.table, 1 ≤ d.fieldWidth ∧ d.fieldWidth ≤ 32) ∧
    ∀ kind header n, standardHeaders kind header = some n → Header.Tells header kind n := by
  refine ⟨fun hcustom => ⟨not_traps_load hcustom, fun b => ?_⟩, ?_, fun b f => ?_, fun p hp => ?_,
    by decide, fun kind header n => Header.standardHeaders_tells⟩
  · exact Run.not_traps fun e he =>
      ((Flash.probe_within l.build l.config).failure_of_error he).isTrap_eq hcustom
  · intro pre p rest hsplit hpre hp b
    have hsmall : ∀ q ∈ l.build.parts ++ pre, q.idLength ≤ 6 := Build.idLength_candidates hpre
    rw [Flash.probe_traps_iff, Build.candidates, hsplit, ← List.append_assoc]
    simp only [Part.find?_eq_error_iff hsmall hp]
  · exact Flash.trapFree_of_probe
  · exact (Build.sized_of_mem hp).capacity

end Loader

/-! ## A part that claims too many bytes -/

/-- A part that claims seven bytes of an identifier. -/
def Part.overlong : Part :=
  { Part.ofIds "overlong" 0x202017 0 65536 128 ∅ with idLength := 7 }

/-- It stops the identification of an M25P, which no built-in part matches; without it nothing stops
the attempt to load from one. -/
theorem trapFree_overlong :
    Run.Traps (Flash.probe .standard { Config.standard with customParts := [.overlong] }
      .m25p).value ∧
    (∀ p ∈ Loader.standard.config.customParts, p.idLength ≤ 6) ∧
    ¬ Run.Traps (Loader.standard.load .kernel .m25p).value.result := by
  have hid : (Bus.readId .m25p).value = .ok (.ofBytes [0x20, 0x20]) :=
    Run.eq_ok_of_toOption (by decide +kernel)
  have hnone : ∀ q ∈ Build.standard.parts ++ [], ¬ q.Matches (.ofBytes [0x20, 0x20]) := by
    decide +kernel
  have hcustom : ∀ p ∈ Loader.standard.config.customParts, p.idLength ≤ 6 :=
    fun _ hp => absurd hp List.not_mem_nil
  obtain ⟨-, htraps, -⟩ := Loader.trapFree
    { Loader.standard with config := { Config.standard with customParts := [.overlong] } }
  have hstops := htraps [] .overlong [] rfl (fun _ hq => absurd hq List.not_mem_nil) (by decide)
  exact ⟨(hstops .m25p).2 ⟨_, hid, hnone⟩, hcustom,
    ((Loader.trapFree .standard).1 hcustom).1 .kernel .m25p⟩

end FlashBoot
