import FlashBoot.Proofs.Drive.Alarms
import FlashBoot.Proofs.Drive.InStep

/-!
# One activity

An activity that takes no memory is in step with itself, with one value. It is confined to a scope
(`Drive.Confined`, and `Run.Confined` when it may end early) if all its pieces are in the scope, its
value is one of those that are expected, and it logs an error only if it fails. The rules below
follow the functions of the driver; from `Run.Confined` everything is known that is known of
activities in step.
-/

namespace FlashBoot

namespace Drive

/-- The activity cannot fail, its pieces are in the scope, its value is in `Q`, and it logs no
error. -/
def Confined {α : Type} (s : Scope) (Q : α → Prop) (x : Drive α) : Prop :=
  InStep s (fun _ _ => False) (fun a a' t => a = a' ∧ Q a ∧ t.alarms = []) x x

namespace Confined

variable {s : Scope} {α β : Type} {Q : α → Prop} {Q' : β → Prop} {x : Drive α}

theorem pure {a : α} (h : Q a) : Confined s Q (pure a) := InStep.pure nofun ⟨rfl, h, rfl⟩

theorem emit {e : Event} (hs : s.does e) (he : ∀ t, e ≠ .transaction t) :
    Confined s (fun _ => True) (Drive.emit e) :=
  InStep.emit hs he ⟨rfl, trivial, rfl⟩

theorem log {m : Message} (hs : s.tells m) (hm : m.isAlarm = false) :
    Confined s (fun _ => True) (Drive.log m) :=
  InStep.log hs ⟨rfl, trivial, Trace.alarms_message_of_not hm []⟩

theorem bind {f : α → Drive β} (hx : Confined s Q x) (hf : ∀ a, Q a → Confined s Q' (f a)) :
    Confined s Q' (x >>= f) := by
  apply InStep.bind_of_never hx
  intro a a' t ha
  obtain ⟨rfl, ha, hnone⟩ := ha
  apply InStep.mono (hf a ha)
  intro c c' t' hc
  obtain ⟨rfl, hc, hnone'⟩ := hc
  exact ⟨rfl, hc, by rw [Trace.alarms_append, hnone, hnone', List.append_nil]⟩

end Confined

end Drive

/-! ## Activities that may end early -/

namespace Run

/-- What comes behind an activity that cannot fail. -/
theorem lift_bind_eq {α β : Type} (x : Drive α) (f : α → Run β) :
    (liftM x >>= f : Run β) = (x >>= fun a => (f a).run : Drive (Except Failure β)) :=
  funext (lift_bind_apply x f)

variable {s : Drive.Scope} {α β : Type} {Q : α → Prop} {Q' : β → Prop} {x : Run α}

/-- The result is this failure. -/
def FailsWith (r : Except Failure α) (e : Failure) : Prop := r = .error e

/-- The result is one for both, it is in `Q` unless it is a failure, and an error was logged only
if it is one. -/
structure Settles (Q : α → Prop) (r r' : Except Failure α) (t : Trace) : Prop where
  same : r = r'
  value : ∀ a, r = .ok a → Q a
  calm : t.alarms ≠ [] → Failed r

/-- The pieces of the activity are in the scope, its value is in `Q` unless it fails, and it logs an
error only if it does. -/
def Confined (s : Drive.Scope) (Q : α → Prop) (x : Run α) : Prop :=
  Drive.InStep s FailsWith (Settles Q) x.run x.run

namespace Settles

theorem error {e : Failure} {t : Trace} (h : t.alarms ≠ [] → Failed (.error e : Except Failure α)) :
    Settles Q (.error e) (.error e) t :=
  ⟨rfl, nofun, h⟩

/-- Behind what logged no error. -/
theorem prepend {r r' : Except Failure α} {t t' : Trace} (h : Settles Q r r' t')
    (hnone : t.alarms = []) : Settles Q r r' (t ++ t') := by
  refine ⟨h.same, h.value, fun halarms => h.calm ?_⟩
  rwa [Trace.alarms_append, hnone, List.nil_append] at halarms

end Settles

namespace Confined

theorem ofExcept {r : Except Failure α} (hQ : ∀ a, r = .ok a → Q a)
    (hs : ∀ e, r = .error e → s.fails e) : Confined s Q (Run.ofExcept r) :=
  .pure hs ⟨rfl, hQ, absurd rfl⟩

theorem pure {a : α} (h : Q a) : Confined s Q (pure a) :=
  ofExcept (r := .ok a) (fun _ ha => Except.ok.inj ha ▸ h) nofun

theorem fail {e : Error} (hs : s.fails (.error e)) : Confined s Q (Run.fail e) :=
  ofExcept (r := .error (.error e)) nofun fun _ he => Except.error.inj he ▸ hs

/-- A failure that is logged where it arises. -/
theorem log_fail {m : Message} {e : Error} (hm : s.tells m) (hs : s.fails (.error e)) :
    Confined s Q (do Drive.log m; Run.fail e) := by
  rw [Confined, ExceptT.run, Run.lift_bind_eq]
  exact .log_bind hm (.pure (fun _ he => Except.error.inj he ▸ hs) (.error fun _ => ⟨e, rfl⟩))

theorem lift {x : Drive α} (h : x.Confined s Q) : Confined s Q (liftM x : Run α) := by
  have hsettles : Drive.InStep s (fun _ _ => False)
      (fun a a' t => Settles Q (.ok a) (.ok a') t) x x := by
    apply h.mono
    intro a a' t ha
    obtain ⟨rfl, ha, hnone⟩ := ha
    exact ⟨rfl, fun _ heq => Except.ok.inj heq ▸ ha, absurd hnone⟩
  exact hsettles.map (fun _ _ => ⟨nofun, nofun⟩) nofun

theorem bind {f : α → Run β} (hx : Confined s Q x) (hf : ∀ a, Q a → Confined s Q' (f a)) :
    Confined s Q' (x >>= f) := by
  apply Drive.InStep.bind hx (f := ExceptT.bindCont f) (g := ExceptT.bindCont f)
  · intro r r' t h hnot
    obtain ⟨rfl, ha, hcalm⟩ := h
    cases r with
    | error e => exact absurd rfl (hnot e)
    | ok a =>
      have hnone := alarms_eq_nil hcalm rfl
      exact Drive.InStep.mono (hf a (ha a rfl)) fun _ _ _ h => h.prepend hnone
  · intro r r' t e h he
    obtain ⟨rfl, -, hcalm⟩ := h
    obtain rfl : r = .error e := he
    refine .pure (fun _ he' => (Except.error.inj he').symm) ⟨rfl, .error fun halarms => ?_⟩
    rw [List.append_nil] at halarms
    exact (hcalm halarms).of_error

theorem log_bind {m : Message} (hs : s.tells m) (hm : m.isAlarm = false) (hx : Confined s Q x) :
    Confined s Q (do Drive.log m; x) :=
  .bind (.lift (.log hs hm)) fun _ _ => hx

theorem logError {m : Message} (hs : s.tells m) (hx : Confined s Q x) :
    Confined s Q (Run.logError x m) := by
  apply Drive.InStep.bind hx
  · intro r r' t h hnot
    obtain ⟨rfl, ha, hcalm⟩ := h
    cases r with
    | error e => exact absurd rfl (hnot e)
    | ok a =>
      refine .pure nofun ⟨rfl, ha, ?_⟩
      rwa [List.append_nil]
  · intro r r' t e h he
    obtain ⟨rfl, -, hcalm⟩ := h
    obtain rfl : r = .error e := he
    have hstop : ∀ e' : Failure, FailsWith (α := α) (.error e) e' → e' = e :=
      fun _ he => (Except.error.inj he).symm
    cases e with
    | error cause => exact .log_bind hs (.pure hstop ⟨rfl, .error fun _ => ⟨cause, rfl⟩⟩)
    | trap trap =>
      refine .pure hstop ⟨rfl, .error ?_⟩
      rwa [List.append_nil]

theorem widen {s' : Drive.Scope} (h : Confined s Q x) (hle : s ≤ s') : Confined s' Q x :=
  Drive.InStep.widen h hle

theorem within (h : Confined s Q x) : Within s.does Q (fun e => e.IsBus ∨ s.fails e) x := by
  have hdrive := Drive.InStep.within h
  refine ⟨hdrive.events, fun b => ?_, hdrive.board⟩
  have hvalue := (Drive.InStep.both h b).1.value
  have hfails := hdrive.value b
  cases hr : (x.run b).value with
  | ok a => exact hvalue a hr
  | error e => exact hfails e hr

theorem endsAtFault (h : Confined s Q x) (hs : ∀ code, ¬ s.fails (.error (.bus code))) :
    EndsAtFault x :=
  Drive.InStep.endsAtFault h hs

theorem calm (h : Confined s Q x) (b : Board) : (x b).trace.alarms ≠ [] → Failed (x b).value :=
  (Drive.InStep.both h b).1.calm

end Confined

end Run

end FlashBoot
