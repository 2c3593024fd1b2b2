import FlashBoot.Proofs.Boot.Bounds
import FlashBoot.Proofs.Boot.Loading
import FlashBoot.Proofs.Bus.Exchange
import FlashBoot.Proofs.Flash.CheckedRead

/-!
# Old memory is not looked at

An attempt is handed the memory that its images go to, with whatever that memory held.
`Loader.load_oblivious`: two attempts that differ in nothing but those contents (`Attempt.Alike`) do
and log the same, leave the same board, report the same, and write the same bytes into their
destinations (`SameReport`).

The other way out would be the bus, where every response is clocked in while as many bytes are
shifted out. In every operation of the driver (`Operation`) those bytes are zeros.
-/

namespace FlashBoot

variable {a a' : Attempt}

theorem Loader.load_agree (l : Loader) (h : a.Alike a') :
    Drive.Agree (SameReport a a') (l.load a) (l.load a') := by
  by_cases hinit : l.controller = .switched false
  · refine ⟨fun b => ?_, fun b => ?_, fun b => ?_⟩ <;>
      rw [load_of_failing hinit, load_of_failing hinit]
    exact h.untouched _
  · have hboot := (boot_inStep (l.boots_unbounded a.signal) h).agree fun _ _ _ hsame => hsame
    refine ⟨fun b => ?_, fun b => ?_, fun b => ?_⟩ <;>
      rw [load_eq_between hinit, load_eq_between hinit]
    · exact hboot.value b
    · exact hboot.board b
    · have htrap : (l.boot a b).value.isTrap = (l.boot a' b).value.isTrap := by
        rw [Report.isTrap, Report.isTrap, (hboot.value b).result]
      rw [Outcome.trace_between, Outcome.trace_between, htrap, hboot.trace b]

/-! ## What is shifted out -/

/-- Everything the driver can be asked to do on a board. -/
inductive Operation where
  | exchange (command : List UInt8) (buffer : Option (List UInt8)) (count : Nat)
  | write (command : List UInt8)
  | readRegister (opcode : Opcode)
  | readId
  | identify (candidates : List Part)
  | probe (build : Build) (config : Config)
  | read (f : Flash) (offset : UInt32) (buffer : List UInt8)
  | readWithin (f : Flash) (offset : UInt32) (buffer : List UInt8)
  | writeEnable
  | writeStatus (value : UInt8)
  | unprotect
  | erasePage0 (f : Flash) (config : Config)
  | recover (f : Flash) (signal : Signal) (config : Config)
  | load (l : Loader) (a : Attempt)

/-- What an operation does on a board. -/
def Operation.events : Operation → Board → List Event
  | .exchange command buffer count, b => (Bus.exchange command buffer count b).events
  | .write command, b => (Bus.write command b).events
  | .readRegister opcode, b => (Bus.readRegister opcode b).events
  | .readId, b => (Bus.readId b).events
  | .identify candidates, b => (Device.identify candidates b).events
  | .probe build config, b => (Flash.probe build config b).events
  | .read f offset buffer, b => (f.read offset buffer b).events
  | .readWithin f offset buffer, b => (f.readWithin offset buffer b).events
  | .writeEnable, b => (Flash.writeEnable b).events
  | .writeStatus value, b => (Flash.writeStatus value b).events
  | .unprotect, b => (Flash.unprotect b).events
  | .erasePage0 f config, b => (f.erasePage0 config b).events
  | .recover f signal config, b => (f.recover signal config b).events
  | .load l a, b => (l.load a b).events

theorem BootEvent.shiftsZeros {e : Event} (h : BootEvent e) : e.ShiftsZeros := by
  cases h with
  | identify h => exact h.zeros
  | recover i h =>
    obtain (h | ⟨_, rfl⟩) | ⟨_, rfl⟩ := h
    · exact h.zeros
    · trivial
    · trivial
  | load g h =>
    obtain h | ⟨_, _, rfl⟩ := h
    · exact h.issues.zeros
    · trivial

theorem shiftsZeros_replicate (command : List UInt8) (count : Nat) (fault : Option UInt8) :
    (Event.transaction ⟨command, List.replicate count 0, fault⟩).ShiftsZeros :=
  fun _ => List.eq_of_mem_replicate

/-- Anything that shifts out zeros. -/
def Drive.Scope.zeros : Drive.Scope where
  does := Event.ShiftsZeros
  tells _ := True
  fails _ := True

theorem Run.Confined.shiftsZeros {α : Type} {Q : α → Prop} {x : Run α}
    (h : Run.Confined .zeros Q x) (b : Board) : ∀ e ∈ (x b).events, e.ShiftsZeros :=
  Drive.InStep.does_of_mem h b

theorem Bus.write_shiftsZeros (command : List UInt8) (b : Board) :
    ∀ e ∈ (write command b).events, e.ShiftsZeros := by
  by_cases hc : command = []
  · subst hc
    exact fun e he => absurd he List.not_mem_nil
  · exact (write_confined hc (shiftsZeros_replicate command 0)).shiftsZeros b

theorem Bus.exchange_shiftsZeros (command : List UInt8) (buffer : Option (List UInt8))
    (count : Nat) (b : Board) : ∀ e ∈ (exchange command buffer count b).events, e.ShiftsZeros := by
  intro e he
  by_cases h : Refuses command buffer count
  · rw [exchange_of_refuses h] at he
    exact absurd he List.not_mem_nil
  · cases ht : b.transact command count with
    | mk reply after =>
      cases reply with
      | ok response =>
        rw [exchange_of_ok h ht] at he
        exact List.mem_singleton.1 he ▸ shiftsZeros_replicate command count none
      | error code =>
        rw [exchange_of_error h ht] at he
        exact List.mem_singleton.1 he ▸ shiftsZeros_replicate command count (some code)

/-- Nothing but zeros is shifted out while a response is captured. -/
theorem Operation.shiftsZeros (o : Operation) (b : Board) : ∀ e ∈ o.events b, e.ShiftsZeros := by
  cases o with
  | exchange command buffer count => exact Bus.exchange_shiftsZeros command buffer count b
  | write command => exact Bus.write_shiftsZeros command b
  | readRegister opcode =>
    exact (Bus.readRegister_confined (shiftsZeros_replicate _ 1)).shiftsZeros b
  | readId => exact (Bus.readId_confined (shiftsZeros_replicate _ 5)).shiftsZeros b
  | identify candidates =>
    exact fun e he =>
      (Drive.Within.events (Device.identify_confined candidates).within b e he).zeros
  | probe build config =>
    exact fun e he => (Drive.Within.events (Flash.probe_within build config) b e he).zeros
  | read f offset buffer =>
    exact fun e he => ((Flash.read_within f offset buffer).events b e he).issues.zeros
  | readWithin f offset buffer =>
    exact fun e he =>
      ((f.readChecked_within checkSlice offset buffer).events b e he).issues.zeros
  | writeEnable => exact Bus.write_shiftsZeros _ b
  | writeStatus value => exact Bus.write_shiftsZeros _ b
  | unprotect =>
    intro e he
    exact BootEvent.shiftsZeros
      (.recover .nor (.inl (Drive.Within.events Flash.unprotect_within b e he)))
  | erasePage0 f config =>
    intro e he
    exact BootEvent.shiftsZeros
      (.recover _ (.inl (Drive.Within.events (Flash.erasePage0_within f config) b e he)))
  | recover f signal config =>
    intro e he
    exact BootEvent.shiftsZeros
      (.recover _ (Drive.Within.events (Flash.recover_within f signal config) b e he))
  | load l a =>
    intro e he
    obtain h | ⟨_, rfl⟩ := l.mem_load_events a b e he
    · exact h.shiftsZeros
    · trivial

/-! ## Both together -/

/-- What memory held before an attempt influences nothing, and no operation puts it on the bus. -/
theorem Loader.load_oblivious (l : Loader) (h : a.Alike a') :
    Drive.Agree (SameReport a a') (l.load a) (l.load a') ∧
      ∀ (o : Operation) (b : Board), ∀ e ∈ o.events b, e.ShiftsZeros :=
  ⟨l.load_agree h, Operation.shiftsZeros⟩

/-- The kernel of an M25P, for memory that holds something else. -/
def Attempt.kernelOver (byte : UInt8) : Attempt :=
  { Attempt.kernel with
    image := { Attempt.kernel.image with destination := List.replicate 256 byte } }

theorem load_oblivious_m25p : (Attempt.kernelOver 0x5A).Alike (.kernelOver 0xC3) ∧
    (Loader.standard.load (.kernelOver 0x5A) .m25p).value.image.destination =
      Board.m25p.memory.readRange 0 256 ∧
    Drive.Agree (SameReport (.kernelOver 0x5A) (.kernelOver 0xC3))
      (Loader.standard.load (.kernelOver 0x5A)) (Loader.standard.load (.kernelOver 0xC3)) := by
  have halike : (Attempt.kernelOver 0x5A).Alike (.kernelOver 0xC3) := by
    refine ⟨rfl, rfl, ⟨rfl, rfl, rfl, ?_⟩, .none⟩
    simp only [Attempt.kernelOver, List.length_replicate]
  exact ⟨halike, by decide +kernel, (Loader.standard.load_oblivious halike).1⟩

end FlashBoot
