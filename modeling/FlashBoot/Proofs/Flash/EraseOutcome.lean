import FlashBoot.Board.Setup
import FlashBoot.Proofs.Flash.Erase
import Mathlib.Data.Nat.Find

/-!
# The outcome of an erase

`erasePage0_ends`: on a board without faults the status bytes to come settle how an erase ends, what
it does, and how often it reads the status.

* A SPI NOR device reads one status if it is unprotected and two otherwise, and is refused when the
  second one still shows the lock or a protection bit (`NorErase.refused`).
* Both families then poll up to the first status that shows the end of the erase, which has to come
  within the retries (`PolledErase`). So more retries change nothing about an erase that succeeds.
-/

namespace FlashBoot

open Flash

/-! ## Bits of a status byte -/

namespace NorStatus

theorem isProtected_ofByte (s : UInt8) : (ofByte s).isProtected = true ↔ s &&& 0x0C ≠ 0 := by
  have hall : ∀ n : Fin 256, (ofByte (.ofFin n)).isProtected =
      decide (UInt8.ofFin n &&& 0x0C ≠ 0) := by decide +kernel
  rw [show (ofByte s).isProtected = decide (s &&& 0x0C ≠ 0) from hall s.toFin]
  exact decide_eq_true_iff

theorem locked_ofByte (s : UInt8) : (ofByte s).locked = true ↔ s &&& 0x80 ≠ 0 := bne_iff_ne

theorem busy_ofByte (s : UInt8) : (ofByte s).busy = true ↔ s &&& 0x01 ≠ 0 := bne_iff_ne

end NorStatus

theorem DataflashStatus.ready_ofByte (s : UInt8) : (ofByte s).ready = true ↔ s &&& 0x80 ≠ 0 :=
  bne_iff_ne

/-! ## Statements -/

/-- The status bytes that a device of a family answers from now on. -/
def Board.statusBytes (b : Board) : Interface → Nat → UInt8
  | .nor, k => b.norStatus.answer (b.norStatus.used + k)
  | .dataflash, k => b.dataflashStatus.answer (b.dataflashStatus.used + k)

/-- How an erase ends that has done `opening`, with `start` status reads `ask`, and may poll
`budget` times, `done j` telling that the `j`-th poll shows the end of it: `r` is its result and
`es` are its events. -/
structure PolledErase (budget start : Nat) (done : Nat → Prop) (opening : List Event) (ask : Event)
    (r : Except Failure Unit) (es : List Event) : Prop where
  ok_iff : r = .ok () ↔ ∃ j < budget, done j
  /-- It polls up to the first status that shows the end. -/
  ready : ∀ j < budget, done j → (∀ i < j, ¬ done i) →
    es = opening ++ List.replicate (j + 1) ask ∧ es.count ask = start + j + 1
  /-- Without one among its polls it runs out of time. -/
  timeout : (∀ j < budget, ¬ done j) → r = .error (.error .timeout) ∧
    es = opening ++ List.replicate budget ask ∧ es.count ask = start + budget

/-- How often a SPI NOR device with the first status `s` is asked for it before the polls. -/
def norStart (s : UInt8) : Nat := if s &&& 0x0C = 0 then 1 else 2

/-- What is done to unprotect a SPI NOR device with the first status `s`. -/
def norOpening (s : UInt8) : List Event :=
  .asked .norStatus :: if s &&& 0x0C = 0 then []
    else (if s &&& 0x80 = 0 then [] else [.sent [0x06], .sent [0x01, 0x00]]) ++
      [.sent [0x06], .sent [0x01, 0x00], .asked .norStatus]

/-- How the erase of a SPI NOR device ends whose status bytes are `s`. -/
structure NorErase (config : Config) (s : Nat → UInt8) (r : Except Failure Unit)
    (es : List Event) : Prop where
  /-- The device stays locked or protected. -/
  refused : s 0 &&& 0x0C ≠ 0 → s 1 &&& 0x80 ≠ 0 ∨ s 1 &&& 0x0C ≠ 0 →
    r = .error (.error .protect) ∧ es = norOpening (s 0) ∧ es.count (.asked .norStatus) = 2
  /-- The device is unprotected, and erased at its address 0. -/
  erased : s 0 &&& 0x0C = 0 ∨ s 1 &&& 0x80 = 0 ∧ s 1 &&& 0x0C = 0 →
    PolledErase (max 1 config.pollRetries.toNat) (norStart (s 0))
      (fun j => s (norStart (s 0) + j) &&& 0x01 = 0)
      (norOpening (s 0) ++
        [.sent [0x06], .sent [0x20, 0x00, 0x00, 0x00], .delay config.settleDelay])
      (.asked .norStatus) r es

/-- How the erase of a DataFlash ends whose status bytes are `s`. -/
def DataflashErase (config : Config) (s : Nat → UInt8) (r : Except Failure Unit)
    (es : List Event) : Prop :=
  PolledErase (max 1 config.pollRetries.toNat) 0 (fun j => s j &&& 0x80 ≠ 0)
    [.sent [0x81, 0x00, 0x00, 0x00], .delay config.settleDelay] (.asked .dataflashStatus) r es

/-- How the erase of a device of either family ends. -/
def EraseEnds (config : Config) (s : Nat → UInt8) (r : Except Failure Unit) (es : List Event) :
    Interface → Prop
  | .nor => NorErase config s r es
  | .dataflash => DataflashErase config s r es

/-! ## Ends of a poll -/

/-- A poll that was asked `m` times is the end of an erase. -/
theorem PollEnds.polledErase {answer : Nat → Bool} {budget m start : Nat} {p : Poll}
    {done : Nat → Prop} {opening : List Event} {ask : Event} (h : PollEnds answer budget m p)
    (hdone : ∀ j, answer j = true ↔ done j) (hstart : opening.count ask = start) :
    PolledErase budget start done opening ask p.result (opening ++ List.replicate m ask) := by
  have hno : ∀ j, answer j = false → ¬ done j := fun j hj => by
    rw [← hdone, hj]
    exact nofun
  have hcount : (opening ++ List.replicate m ask).count ask = start + m := by
    rw [List.count_append, List.count_replicate_self, hstart]
  cases h with
  | @ready j hj hyes hfirst =>
    refine ⟨iff_of_true rfl ⟨j, hj, (hdone j).1 hyes⟩, fun j' _ hdone' hfirst' => ?_,
      fun hnone => ?_⟩
    · -- the first yes is the first status that shows the end
      obtain rfl : j = j' := by
        rcases Nat.lt_trichotomy j j' with hlt | heq | hlt
        · exact absurd ((hdone j).1 hyes) (hfirst' j hlt)
        · exact heq
        · exact absurd hdone' (hno j' (hfirst j' hlt))
      exact ⟨rfl, hcount⟩
    · exact absurd ((hdone j).1 hyes) (hnone j hj)
  | exhausted hnone =>
    have hnone' : ∀ j < budget, ¬ done j := fun j hj => hno j (hnone j hj)
    refine ⟨iff_of_false nofun fun ⟨j, hj, hd⟩ => hnone' j hj hd, fun j hj hd => ?_, fun _ => ?_⟩
    · exact absurd hd (hnone' j hj)
    · exact ⟨rfl, rfl, hcount⟩

/-! ## More retries -/

/-- An erase that succeeded does the same when it may poll more often. -/
theorem PolledErase.eq_of_le {budget budget' start : Nat} {done : Nat → Prop}
    {opening es es' : List Event} {ask : Event} {r : Except Failure Unit}
    (h : PolledErase budget start done opening ask (.ok ()) es)
    (h' : PolledErase budget' start done opening ask r es') (hle : budget ≤ budget') :
    r = .ok () ∧ es' = es := by
  classical
  obtain ⟨i, hi, hdone⟩ := h.ok_iff.1 rfl
  have hex : ∃ j, done j := ⟨i, hdone⟩
  have hj : Nat.find hex < budget := Nat.lt_of_le_of_lt (Nat.find_min' hex hdone) hi
  have hfirst : ∀ j < Nat.find hex, ¬ done j := fun _ => Nat.find_min hex
  refine ⟨h'.ok_iff.2 ⟨_, Nat.lt_of_lt_of_le hj hle, Nat.find_spec hex⟩, ?_⟩
  rw [(h.ready _ hj (Nat.find_spec hex) hfirst).1,
    (h'.ready _ (Nat.lt_of_lt_of_le hj hle) (Nat.find_spec hex) hfirst).1]

/-- An erase does the same with another number of retries that is not smaller, if it succeeds. -/
theorem EraseEnds.eq_of_le {config : Config} {retries : UInt32} {s : Nat → UInt8} {i : Interface}
    {r : Except Failure Unit} {es es' : List Event} (h : EraseEnds config s (.ok ()) es i)
    (h' : EraseEnds { config with pollRetries := retries } s r es' i)
    (hle : config.pollRetries ≤ retries) : r = .ok () ∧ es' = es := by
  have hmax : max 1 config.pollRetries.toNat ≤ max 1 retries.toNat := by
    have := UInt32.le_iff_toNat_le.1 hle
    omega
  cases i with
  | dataflash => exact PolledErase.eq_of_le h h' hmax
  | nor =>
    by_cases hstays : s 0 &&& 0x0C ≠ 0 ∧ (s 1 &&& 0x80 ≠ 0 ∨ s 1 &&& 0x0C ≠ 0)
    · cases (NorErase.refused h hstays.1 hstays.2).1
    · have hopen : s 0 &&& 0x0C = 0 ∨ s 1 &&& 0x80 = 0 ∧ s 1 &&& 0x0C = 0 := by
        by_cases h0 : s 0 &&& 0x0C = 0
        · exact .inl h0
        · simpa [h0] using hstays
      have hpolled' := NorErase.erased h' hopen
      exact (NorErase.erased h hopen).eq_of_le hpolled' hmax

/-! ## Both families -/

theorem stillProtected_ofByte (s : UInt8) :
    stillProtected (.ofByte s) = true ↔ s &&& 0x80 ≠ 0 ∨ s &&& 0x0C ≠ 0 := by
  rw [stillProtected, Bool.or_eq_true, NorStatus.locked_ofByte, NorStatus.isProtected_ofByte]

theorem unlockEvents_ofByte (s : UInt8) : unlockEvents (.ofByte s) = norOpening s := by
  have hprotected := NorStatus.isProtected_ofByte s
  have hlocked := NorStatus.locked_ofByte s
  unfold unlockEvents norOpening
  by_cases hp : s &&& 0x0C = 0 <;> by_cases hl : s &&& 0x80 = 0 <;>
    simp_all [clearingEvents]

theorem norStart_eq (s : UInt8) :
    (if (NorStatus.ofByte s).isProtected = true then 2 else 1) = norStart s := by
  unfold norStart
  by_cases hp : s &&& 0x0C = 0 <;> simp [hp, NorStatus.isProtected_ofByte]

theorem count_norOpening (s : UInt8) :
    (norOpening s).count (.asked .norStatus) = norStart s := by
  unfold norOpening norStart
  by_cases hp : s &&& 0x0C = 0 <;> by_cases hl : s &&& 0x80 = 0 <;> simp [hp, hl] <;> rfl

theorem Board.finished_nor (b : Board) (k : Nat) :
    b.finished .nor k = true ↔ b.statusBytes .nor k &&& 0x01 = 0 := by
  have hbusy := NorStatus.busy_ofByte (b.statusBytes .nor k)
  rw [Board.finished, Bool.not_eq_true', ← Bool.not_eq_true]
  exact (not_congr hbusy).trans Decidable.not_not

theorem Board.finished_dataflash (b : Board) (k : Nat) :
    b.finished .dataflash k = true ↔ b.statusBytes .dataflash k &&& 0x80 ≠ 0 :=
  DataflashStatus.ready_ofByte _

namespace Flash

variable {f : Flash} {b : Board}

theorem norErase (hi : f.descriptor.interface = .nor) (config : Config) (hfaults : b.faults = []) :
    NorErase config (b.statusBytes .nor) (f.erasePage0 config b).value
      (f.erasePage0 config b).events := by
  have hquiet := Board.quiet_eq hfaults
  have hprotected := NorStatus.isProtected_ofByte (b.statusBytes .nor 0)
  have hstays := stillProtected_ofByte (b.statusBytes .nor 1)
  have hopening := unlockEvents_ofByte (b.statusBytes .nor 0)
  have hcount := count_norOpening (b.statusBytes .nor 0)
  refine ⟨fun h0 h1 => ?_, fun hopen => ?_⟩
  · obtain ⟨_, hgoes⟩ := erasePage0_goes_refused hi config (hprotected.2 h0) (hstays.2 h1)
    rw [hquiet] at hgoes
    rw [norStart, if_neg h0] at hcount
    have hevents := hgoes.events.trans hopening
    exact ⟨hgoes.value, hevents, hevents ▸ hcount⟩
  · have hclear : (b.nor 0).isProtected = true → stillProtected (b.nor 1) = false := by
      intro hp
      obtain h0 | ⟨hl, h1⟩ := hopen
      · exact absurd h0 (hprotected.1 hp)
      · exact Bool.eq_false_iff.2 fun hs => (hstays.1 hs).elim (absurd hl) (absurd h1)
    obtain ⟨n, p, hends, _, hgoes⟩ := erasePage0_goes_nor hi config hclear
    have hstart : (if (b.nor 0).isProtected = true then 2 else 1) = _ := norStart_eq _
    rw [hquiet] at hgoes
    rw [hstart, Nat.max_comm] at hends
    have hvalue : (f.erasePage0 config b).value = p.result := hgoes.value
    have hevents : (f.erasePage0 config b).events = norOpening (b.statusBytes .nor 0) ++
        [.sent [0x06], .sent [0x20, 0x00, 0x00, 0x00], .delay config.settleDelay] ++
          List.replicate n (.asked .norStatus) := by
      rw [List.append_assoc, ← hopening]
      exact hgoes.events
    rw [hvalue, hevents]
    refine hends.polledErase (fun j => b.finished_nor _) ?_
    rw [List.count_append, hcount]
    rfl

theorem dataflashErase (hi : f.descriptor.interface = .dataflash) (config : Config)
    (hfaults : b.faults = []) :
    DataflashErase config (b.statusBytes .dataflash) (f.erasePage0 config b).value
      (f.erasePage0 config b).events := by
  obtain ⟨n, p, hends, _, hgoes⟩ := erasePage0_goes_dataflash hi config b
  rw [Board.quiet_eq hfaults] at hgoes
  rw [Nat.max_comm] at hends
  have hvalue : (f.erasePage0 config b).value = p.result := hgoes.value
  have hevents : (f.erasePage0 config b).events =
      [.sent [0x81, 0x00, 0x00, 0x00], .delay config.settleDelay] ++
        List.replicate n (.asked .dataflashStatus) := hgoes.events
  rw [hvalue, hevents]
  exact hends.polledErase b.finished_dataflash rfl

theorem eraseEnds (f : Flash) (config : Config) (hfaults : b.faults = []) :
    EraseEnds config (b.statusBytes f.descriptor.interface) (f.erasePage0 config b).value
      (f.erasePage0 config b).events f.descriptor.interface := by
  cases hi : f.descriptor.interface with
  | nor => exact norErase hi config hfaults
  | dataflash => exact dataflashErase hi config hfaults

/-- **Outcome of an erase.** Without faults the status bytes to come settle how an erase ends, and
an erase that succeeds does the same with more retries. -/
theorem erasePage0_ends (f : Flash) (config : Config) {b : Board} (hfaults : b.faults = []) :
    EraseEnds config (b.statusBytes f.descriptor.interface) (f.erasePage0 config b).value
        (f.erasePage0 config b).events f.descriptor.interface ∧
      ((f.erasePage0 config b).value = .ok () → ∀ retries, config.pollRetries ≤ retries →
        (f.erasePage0 { config with pollRetries := retries } b).value = .ok () ∧
        (f.erasePage0 { config with pollRetries := retries } b).events =
          (f.erasePage0 config b).events) := by
  refine ⟨eraseEnds f config hfaults, fun hok retries hle => ?_⟩
  have hends := eraseEnds f config hfaults
  rw [hok] at hends
  exact hends.eq_of_le (eraseEnds f _ hfaults) hle

end Flash

/-- A device that is locked and protected, is unlocked, and is busy once. -/
def Board.locked : Board :=
  { Board.blank with norStatus := .ofBytes #[0x8C, 0x00, 0x01, 0x00] }

/-- Such a device, known by its family. -/
def Flash.norFamily : Flash := ⟨.ofFamily (.ofBytes [0x20, 0x20]) (.linear 16384 256) .nor, 0x10000⟩

theorem erasePage0_ends_locked :
    Board.locked.faults = [] ∧
    (Flash.norFamily.erasePage0 .standard .locked).value = .ok () ∧
    (Flash.norFamily.erasePage0 .standard .locked).events.count (.asked .norStatus) = 4 := by
  have herase := (Flash.erasePage0_ends .norFamily .standard (b := .locked) rfl).1
  have hpolled := NorErase.erased herase (.inr ⟨rfl, rfl⟩)
  refine ⟨rfl, hpolled.ok_iff.2 ⟨1, by decide, rfl⟩, (hpolled.ready 1 (by decide) rfl ?_).2⟩
  decide

end FlashBoot
