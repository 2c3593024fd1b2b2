import FlashBoot.Proofs.Boot.Alike
import FlashBoot.Proofs.Device.Path
import FlashBoot.Proofs.Flash.CheckedRead

/-!
# The first fault ends the operation

A fault that strikes a transaction of an operation is the failure of the operation, with its code,
and nothing but the closing of the controller comes behind it (`EndsAtFirstFault`). So no
transaction is tried again, no fault is passed over, and none is reported as anything else.

`firstFault_ends` says so of a whole attempt, of identification, reads, unprotecting, erasing and
recovery, whatever the device answers. It rests on `Drive.EndsAtFault` for each of them.
-/

namespace FlashBoot

theorem Loader.boot_endsAtFault (l : Loader) (a : Attempt) :
    Drive.EndsAtFault (fun r => Run.Reports r.result) (l.boot a) :=
  (boot_inStep (l.boots_unbounded a.signal) (.refl a)).endsAtFault Drive.Scope.not_fails_unbounded

/-! ## Operations -/

/-- An operation with this result and these events reports a bus failure exactly when one of its
transactions failed. What it reports is the code of the first one that did, behind which only
`closing` comes. -/
structure EndsAtFirstFault {α : Type} (closing : List Event) (r : Except Failure α)
    (es : List Event) : Prop where
  reported : (∃ code, r = .error (.error (.bus code))) ↔
    ∃ t, .transaction t ∈ es ∧ t.fault ≠ none
  first : ∀ code, r = .error (.error (.bus code)) → ∃ before t, Faultless before ∧
    t.fault = some code ∧ es = before ++ .transaction t :: closing

namespace EndsAtFirstFault

variable {α β : Type} {r : Except Failure α} {es opening closing closing' : List Event}

/-- What reports its faults and ends at them has nothing to close. -/
theorem of_endsAtFault {x : Drive β} {result : β → Except Failure α}
    (h : Drive.EndsAtFault (fun a => Run.Reports (result a)) x) (b : Board) :
    EndsAtFirstFault [] (result (x b).value) (x b).events := by
  obtain ⟨hnone, hr⟩ | ⟨code, before, t, hr, hbefore, ht, hes⟩ := h.faultless_or_struck b
  · constructor
    · constructor
      · rintro ⟨code, hcode⟩
        exact absurd hcode (hr code)
      · rintro ⟨t, hmem, hfault⟩
        exact absurd (hnone t hmem) hfault
    · intro code hcode
      exact absurd hcode (hr code)
  · constructor
    · constructor
      · intro _
        exact ⟨t, by simp [hes], by simp [ht]⟩
      · intro _
        exact ⟨code, hr⟩
    · intro code' hcode
      cases hr.symm.trans hcode
      exact ⟨before, t, hbefore, ht, hes⟩

/-- An operation between events that are no transactions; the ones behind it may depend on whether
there was a failure. -/
theorem wrap (h : EndsAtFirstFault [] r es) (hopening : Faultless opening)
    (hclosing : Faultless closing') (heq : ∀ code, Run.Reports r code → closing' = closing) :
    EndsAtFirstFault closing r (opening ++ (es ++ closing')) := by
  constructor
  · rw [h.reported]
    constructor
    · rintro ⟨t, hmem, hfault⟩
      exact ⟨t, by simp [hmem], hfault⟩
    · rintro ⟨t, hmem, hfault⟩
      rw [List.mem_append, List.mem_append] at hmem
      obtain hmem | hmem | hmem := hmem
      · exact absurd (hopening t hmem) hfault
      · exact ⟨t, hmem, hfault⟩
      · exact absurd (hclosing t hmem) hfault
  · intro code hcode
    obtain ⟨before, t, hbefore, ht, hes⟩ := h.first code hcode
    refine ⟨opening ++ before, t, hopening.append hbefore, ht, ?_⟩
    rw [hes, heq code hcode]
    simp

end EndsAtFirstFault

theorem Controller.faultless_calls (c : Controller) (call : ControllerCall) :
    Faultless (c.calls call) := by
  intro t ht
  cases eq_of_mem_calls ht

theorem Loader.load_endsAtFirstFault (l : Loader) (a : Attempt) (b : Board) :
    EndsAtFirstFault (l.controller.calls .disable) (l.load a b).value.result
      (l.load a b).events := by
  by_cases hinit : l.controller = .switched false
  · have hload := load_goes_of_failing hinit a b
    rw [hload.value, hload.events]
    constructor
    · constructor
      · rintro ⟨_, ⟨⟩⟩
      · rintro ⟨t, hmem, -⟩
        cases List.mem_singleton.1 hmem
    · rintro _ ⟨⟩
  · have hload := load_goes (a := a) (b := b) hinit ⟨rfl, rfl, rfl⟩
    have hboot := EndsAtFirstFault.of_endsAtFault (boot_endsAtFault l a) b
    rw [hload.value, hload.events, ← List.append_assoc]
    apply hboot.wrap
    · exact (l.controller.faultless_calls .init).append (l.controller.faultless_calls .enable)
    · intro t ht
      split at ht
      · cases ht
      · exact l.controller.faultless_calls .disable t ht
    · -- a bus failure is no trap, so the controller is switched off behind it
      intro code hcode
      have htrap : (l.boot a b).value.isTrap = false := by
        unfold Report.isTrap
        rw [hcode]
        rfl
      rw [htrap]
      rfl

/-- On every board, the first fault ends an attempt, up to the closing of its controller, and it
ends identification, reads, unprotecting, erasing and recovery. It is reported as it is. -/
theorem firstFault_ends (l : Loader) (a : Attempt) (f : Flash) (config : Config) (signal : Signal)
    (offset : UInt32) (buffer : List UInt8) (b : Board) :
    EndsAtFirstFault (l.controller.calls .disable) (l.load a b).value.result (l.load a b).events ∧
    EndsAtFirstFault [] (Flash.probe l.build config b).value (Flash.probe l.build config b).events ∧
    EndsAtFirstFault [] (f.read offset buffer b).value.result (f.read offset buffer b).events ∧
    EndsAtFirstFault [] (f.readWithin offset buffer b).value.result
      (f.readWithin offset buffer b).events ∧
    EndsAtFirstFault [] (Flash.unprotect b).value (Flash.unprotect b).events ∧
    EndsAtFirstFault [] (f.erasePage0 config b).value (f.erasePage0 config b).events ∧
    EndsAtFirstFault [] (f.recover signal config b).value (f.recover signal config b).events :=
  ⟨l.load_endsAtFirstFault a b, .of_endsAtFault (Flash.probe_endsAtFault _ _) b,
    .of_endsAtFault (f.read_endsAtFault offset buffer) b,
    .of_endsAtFault (f.readChecked_endsAtFault checkSlice offset buffer) b,
    .of_endsAtFault Flash.unprotect_endsAtFault b, .of_endsAtFault (f.erasePage0_endsAtFault _) b,
    .of_endsAtFault (f.recover_endsAtFault signal config) b⟩

end FlashBoot
