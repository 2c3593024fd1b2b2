import FlashBoot.Drive

/-!
# What is logged as an error

`Trace.alarms` are the messages that are logged as errors. An activity tells of its failures when it
never fails without logging one (`Run.Told`). A failure that is logged by the caller is told of
(`Run.Told.logError`), and so it is enough that the callers log theirs.
-/

namespace FlashBoot

/-- Whether a message is logged as an error. -/
def Message.isAlarm (m : Message) : Bool := m.severity = .error

/-- The messages of a trace that are logged as errors. -/
def Trace.alarms (t : Trace) : List Message := t.messages.filter Message.isAlarm

namespace Trace

@[simp] theorem alarms_append (s t : Trace) : (s ++ t).alarms = s.alarms ++ t.alarms := by
  rw [alarms, messages_append, List.filter_append]
  rfl

@[simp] theorem alarms_nil : Trace.alarms [] = [] := rfl

@[simp] theorem alarms_event (e : Event) (t : Trace) :
    Trace.alarms (.event e :: t) = t.alarms := rfl

theorem alarms_message {m : Message} (h : m.isAlarm = true) (t : Trace) :
    Trace.alarms (.message m :: t) = m :: t.alarms :=
  List.filter_cons_of_pos h

theorem alarms_message_of_not {m : Message} (h : m.isAlarm = false) (t : Trace) :
    Trace.alarms (.message m :: t) = t.alarms :=
  List.filter_cons_of_neg (Bool.eq_false_iff.1 h)

end Trace

namespace Run

variable {α β : Type}

/-- The driver reports an error. A trap is none: it stops the machine. -/
def Failed (r : Except Failure α) : Prop := ∃ e, r = .error (.error e)

theorem not_failed_ok (a : α) : ¬ Failed (.ok a : Except Failure α) := nofun

theorem Failed.of_error {e : Failure} (h : Failed (.error e : Except Failure α)) :
    Failed (.error e : Except Failure β) := by
  obtain ⟨cause, h⟩ := h
  exact ⟨cause, congrArg _ (Except.error.inj h)⟩

theorem failed_map_iff {g : α → β} {r : Except Failure α} : Failed (r.map g) ↔ Failed r := by
  cases r <;> simp [Failed, Except.map]

/-- What logs an error only if it fails, and ended well, logged none. -/
theorem alarms_eq_nil {r : Except Failure α} {t : Trace} (h : t.alarms ≠ [] → Failed r) {a : α}
    (hr : r = .ok a) : t.alarms = [] :=
  Classical.byContradiction fun hne => not_failed_ok a (hr ▸ h hne)

/-- The activity logs an error whenever it fails. -/
def Told (x : Run α) : Prop := ∀ b, Failed (x b).value → (x b).trace.alarms ≠ []

namespace Told

theorem pure (a : α) : Told (pure a) := fun _ h => absurd h (not_failed_ok a)

theorem bind {x : Run α} {f : α → Run β} (hx : Told x) (hf : ∀ a, Told (f a)) :
    Told (x >>= f) := by
  intro b h
  rw [bind_apply] at h ⊢
  cases hr : (x b).value with
  | error e =>
    rw [hr] at h
    exact hx b (hr ▸ h.of_error)
  | ok a =>
    rw [hr] at h
    rw [Trace.alarms_append]
    exact List.append_ne_nil_of_right_ne_nil _ (hf a _ h)

/-- What cannot fail has nothing to tell. -/
theorem lift_bind {x : Drive α} {f : α → Run β} (hf : ∀ a, Told (f a)) :
    Told (do f (← liftM x)) :=
  bind (fun _ => nofun) hf

theorem logError (x : Run α) {m : Message} (hm : m.isAlarm = true) : Told (logError x m) := by
  intro b h
  rw [value_logError] at h
  obtain ⟨e, he⟩ := h
  rw [logError_apply, he, Trace.alarms_append, Trace.alarms_message hm]
  exact List.append_ne_nil_of_right_ne_nil _ (List.cons_ne_nil m _)

end Told

end Run

end FlashBoot
