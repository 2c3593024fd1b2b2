import FlashBoot.Flash.Recovery
import FlashBoot.Proofs.Bus
import FlashBoot.Proofs.Trace.Kinds

/-!
# What erasing and recovery may do

`Flash.erasePage0_confined` follows an erase through its functions: it does nothing but the commands
of its family and the delay, and it fails by the bus, by protection or by time
(`Drive.Scope.erasing`). A recovery also samples its pin, and goes on to the erase only when the
signal is asserted (`Flash.recover_confined`).
-/

namespace FlashBoot

/-! ## Erasing -/

namespace Flash

/-- The opcodes an erase of a family sends. -/
def eraseOpcodes : Interface → List Opcode
  | .nor => [.norStatus, .writeEnable, .writeStatus, .blockErase]
  | .dataflash => [.pageErase, .dataflashStatus]

/-- A transaction of an erase, or its delay. -/
def EraseEvent (i : Interface) (e : Event) : Prop :=
  e.Issues (eraseOpcodes i) ∨ ∃ microseconds, e = .delay microseconds

/-- An erase fails by the bus, by protection or by time. -/
def EraseFailure (f : Failure) : Prop :=
  f.IsBus ∨ f = .error .protect ∨ f = .error .timeout

end Flash

namespace Drive.Scope

/-- What an erase does besides its own command. -/
def preparing (i : Interface) : Scope where
  does := Event.Issues (Flash.eraseOpcodes i)
  tells m := m.isOfReading = false
  fails f := f = .error .protect

/-- No more than an erase takes. -/
def erasing (i : Interface) : Scope where
  does := Flash.EraseEvent i
  tells m := m.isOfReading = false
  fails f := f = .error .protect ∨ f = .error .timeout

theorem preparing_le_erasing (i : Interface) : preparing i ≤ erasing i :=
  ⟨fun _ he => .inl he, fun _ hm => hm, fun _ hf => .inl hf⟩

theorem not_fails_erasing (i : Interface) (code : UInt8) :
    ¬ (erasing i).fails (.error (.bus code)) := by
  rintro (h | h) <;> cases h

end Drive.Scope

namespace Flash

theorem norStatus_confined : Run.Confined (.preparing .nor) (fun _ => True) norStatus := by
  have hread : Run.Confined (.preparing .nor) (fun _ => True) (Bus.readRegister .norStatus) :=
    Bus.readRegister_confined
      (Event.issues_of_mem (o := .norStatus) (by simp [eraseOpcodes]) rfl (by simp))
  exact .bind hread fun _ _ => .pure trivial

theorem dataflashStatus_confined :
    Run.Confined (.preparing .dataflash) (fun _ => True) dataflashStatus := by
  have hread : Run.Confined (.preparing .dataflash) (fun _ => True)
      (Bus.readRegister .dataflashStatus) :=
    Bus.readRegister_confined
      (Event.issues_of_mem (o := .dataflashStatus) (by simp [eraseOpcodes]) rfl (by simp))
  exact .bind hread fun _ _ => .pure trivial

theorem writeEnable_confined : Run.Confined (.preparing .nor) (fun _ => True) writeEnable :=
  Bus.write_confined (by simp)
    (Event.issues_of_mem (o := .writeEnable) (by simp [eraseOpcodes]) rfl (by simp))

theorem clearProtection_confined :
    Run.Confined (.preparing .nor) (fun _ => True) clearProtection :=
  .bind writeEnable_confined fun _ _ => Bus.write_confined (by simp)
    (Event.issues_of_mem (o := .writeStatus) (by simp [eraseOpcodes]) rfl (by simp))

theorem confirmUnprotected_confined :
    Run.Confined (.preparing .nor) (fun _ => True) confirmUnprotected := by
  refine .bind norStatus_confined fun status _ => ?_
  split
  · exact .log_bind rfl rfl (.fail rfl)
  · exact .pure trivial

theorem unprotect_confined : Run.Confined (.preparing .nor) (fun _ => True) unprotect := by
  have hrest : Run.Confined (.preparing .nor) (fun _ => True) (do
      clearProtection
      confirmUnprotected) :=
    .bind clearProtection_confined fun _ _ => confirmUnprotected_confined
  refine .bind norStatus_confined fun status _ => ?_
  split
  · split
    · exact .bind clearProtection_confined fun _ _ => hrest
    · exact hrest
  · exact .pure trivial

theorem prepareErase_confined (i : Interface) :
    Run.Confined (.preparing i) (fun _ => True) (prepareErase i) := by
  cases i with
  | nor => exact .bind unprotect_confined fun _ _ => writeEnable_confined
  | dataflash => exact .pure trivial

theorem eraseDone_confined (i : Interface) :
    Run.Confined (.preparing i) (fun _ => True) (eraseDone i) := by
  cases i with
  | nor => exact .bind norStatus_confined fun _ _ => .pure trivial
  | dataflash => exact .bind dataflashStatus_confined fun _ _ => .pure trivial

theorem write_eraseCommand_confined (i : Interface) :
    Run.Confined (.preparing i) (fun _ => True) (Bus.write (eraseCommand i)) := by
  cases i with
  | nor =>
    exact Bus.write_confined (by simp [eraseCommand, Address.eraseCommand])
      (Event.issues_of_mem (o := .blockErase) (by simp [eraseOpcodes]) rfl (by simp))
  | dataflash =>
    exact Bus.write_confined (by simp [eraseCommand, Address.eraseCommand])
      (Event.issues_of_mem (o := .pageErase) (by simp [eraseOpcodes]) rfl (by simp))

theorem pollTimes_confined {s : Drive.Scope} {ready : Run Bool}
    (h : Run.Confined s (fun _ => True) ready) (n : Nat) :
    Run.Confined s (fun _ => True) (pollTimes ready n) := by
  induction n with
  | zero => exact .pure trivial
  | succ n ih =>
    refine .bind h fun answer _ => ?_
    cases answer with
    | true => exact .pure trivial
    | false => exact ih

theorem awaitErase_confined (i : Interface) (config : Config) :
    Run.Confined (.erasing i) (fun _ => True) (awaitErase i config) := by
  have hpoll := (pollTimes_confined (eraseDone_confined i) (max config.pollRetries.toNat 1)).widen
    (Drive.Scope.preparing_le_erasing i)
  refine .bind (.lift (.emit (.inr ⟨_, rfl⟩) nofun)) fun _ _ => .bind hpoll fun answer _ => ?_
  cases answer with
  | ready => exact .pure trivial
  | exhausted => exact .log_fail rfl (.inr rfl)

theorem erasePage0_confined (f : Flash) (config : Config) :
    Run.Confined (.erasing f.descriptor.interface) (fun _ => True) (f.erasePage0 config) := by
  have hle := Drive.Scope.preparing_le_erasing f.descriptor.interface
  refine .bind ((prepareErase_confined _).widen hle) fun _ _ => ?_
  refine .bind (.logError rfl ((write_eraseCommand_confined _).widen hle)) fun _ _ => ?_
  exact awaitErase_confined _ config

theorem unprotect_within : Run.Within (EraseEvent .nor) (fun _ => True) EraseFailure unprotect :=
  (unprotect_confined.widen (Drive.Scope.preparing_le_erasing .nor)).within

/-- Whatever the device answers, an erase does nothing but the commands of its family and the
delay. -/
theorem erasePage0_within (f : Flash) (config : Config) :
    Run.Within (EraseEvent f.descriptor.interface) (fun _ => True) EraseFailure
      (f.erasePage0 config) :=
  (f.erasePage0_confined config).within

theorem unprotect_endsAtFault : Run.EndsAtFault unprotect :=
  unprotect_confined.endsAtFault fun _ => nofun

theorem erasePage0_endsAtFault (f : Flash) (config : Config) :
    Run.EndsAtFault (f.erasePage0 config) :=
  (f.erasePage0_confined config).endsAtFault (Drive.Scope.not_fails_erasing _)

end Flash

/-! ## Recovery -/

/-- Whether recovery is requested; a pin that cannot be read requests nothing. -/
def Signal.asserted : Signal → Bool
  | .absent => false
  | .activeLow pin => pin = .low
  | .activeHigh pin => pin = .high

/-- An event of an erase, or a sample of the recovery pin. -/
def Flash.RecoverEvent (i : Interface) (e : Event) : Prop :=
  EraseEvent i e ∨ ∃ asked, e = .pinRead asked

namespace Drive.Scope

/-- What a recovery does before it erases. -/
def sampling : Scope where
  does e := ∃ asked, e = .pinRead asked
  tells m := m.isOfReading = false
  fails _ := False

/-- No more than a recovery takes. -/
def recovering (i : Interface) : Scope where
  does := Flash.RecoverEvent i
  tells m := m.isOfReading = false
  fails f := f = .error .protect ∨ f = .error .timeout

theorem sampling_le_recovering (i : Interface) : sampling ≤ recovering i :=
  ⟨fun _ he => .inr he, fun _ hm => hm, fun _ => False.elim⟩

theorem erasing_le_recovering (i : Interface) : erasing i ≤ recovering i :=
  ⟨fun _ he => .inl he, fun _ hm => hm, fun _ hf => hf⟩

end Drive.Scope

theorem Signal.sample_confined (s : Signal) :
    s.sample.Confined .sampling fun asked => asked = s.asserted := by
  cases s with
  | absent => exact .pure rfl
  | activeLow pin => exact .bind (.emit ⟨_, rfl⟩ nofun) fun _ _ => .pure rfl
  | activeHigh pin => exact .bind (.emit ⟨_, rfl⟩ nofun) fun _ _ => .pure rfl

namespace Flash

/-- The erase counts only if the signal is asserted. -/
theorem recover_confined {s : Drive.Scope} (f : Flash) {signal : Signal} (config : Config)
    (hsample : .sampling ≤ s)
    (herase : signal.asserted = true → .erasing f.descriptor.interface ≤ s) :
    Run.Confined s (fun _ => True) (f.recover signal config) := by
  refine .log_bind (hsample.tells _ rfl) rfl ?_
  refine .bind (.widen (.lift signal.sample_confined) hsample) fun asked hasked => ?_
  cases asked with
  | false => exact .pure trivial
  | true =>
    have herased := (f.erasePage0_confined config).widen (herase hasked.symm)
    refine .log_bind (hsample.tells _ rfl) rfl ?_
    refine .bind (.logError (hsample.tells _ rfl) herased) fun _ _ => ?_
    exact .log_bind (hsample.tells _ rfl) rfl (.pure trivial)

theorem recover_confined_self (f : Flash) (signal : Signal) (config : Config) :
    Run.Confined (.recovering f.descriptor.interface) (fun _ => True) (f.recover signal config) :=
  f.recover_confined config (Drive.Scope.sampling_le_recovering _)
    fun _ => Drive.Scope.erasing_le_recovering _

/-- A recovery that fails is logged as an error. -/
theorem recover_told (f : Flash) (signal : Signal) (config : Config) :
    Run.Told (f.recover signal config) := by
  refine .lift_bind fun _ => .lift_bind fun asked => ?_
  cases asked with
  | false => exact .pure _
  | true =>
    refine .lift_bind fun _ => .bind (.logError _ rfl) fun _ => ?_
    exact .lift_bind fun _ => .pure _

theorem recover_within (f : Flash) (signal : Signal) (config : Config) :
    Run.Within (RecoverEvent f.descriptor.interface) (fun _ => True) EraseFailure
      (f.recover signal config) :=
  (f.recover_confined_self signal config).within

theorem recover_endsAtFault (f : Flash) (signal : Signal) (config : Config) :
    Run.EndsAtFault (f.recover signal config) :=
  (f.recover_confined_self signal config).endsAtFault
    (Drive.Scope.not_fails_erasing f.descriptor.interface)

end Flash

end FlashBoot
