import FlashBoot.Boot
import FlashBoot.Proofs.Flash.Recovery

/-!
# The path of a boot attempt

An attempt identifies the device, samples the recovery signal, and then either erases or loads.
What comes before its images (`Loader.prepare`) goes in one of three ways, and
`Loader.boot_goes_of_error`, `Loader.boot_goes_of_requested` and
`Loader.boot_goes_of_not_requested` put the path of the attempt together for them. Around it there
are only the calls of the controller (`Loader.load_eq_between`).
-/

namespace FlashBoot

/-- The outcome with a trace before and one behind its own. -/
def Outcome.between {α : Type} (opening closing : Trace) (o : Outcome α) : Outcome α :=
  { o with trace := opening ++ (o.trace ++ closing) }

namespace Outcome

variable {α : Type} (opening closing : Trace) (o : Outcome α)

@[simp] theorem value_between : (o.between opening closing).value = o.value := rfl

@[simp] theorem trace_between :
    (o.between opening closing).trace = opening ++ (o.trace ++ closing) := rfl

@[simp] theorem events_between :
    (o.between opening closing).events = opening.events ++ (o.events ++ closing.events) := by
  simp [events]

end Outcome

/-! ## The signal -/

namespace Signal

/-- The samples of the pin that tell. -/
def pinReads : Signal → List Event
  | .absent => []
  | .activeLow _ => [.pinRead .low]
  | .activeHigh _ => [.pinRead .high]

theorem sample_goes (s : Signal) (b : Board) : Drive.Goes s.sample b s.asserted b s.pinReads := by
  cases s with
  | absent => exact .pure _ _
  | activeLow pin => exact (Drive.Goes.emit _ b).bind (.pure _ _)
  | activeHigh pin => exact (Drive.Goes.emit _ b).bind (.pure _ _)

end Signal

/-! ## The controller -/

namespace Controller

/-- What a call of the controller shows on the board. -/
def calls (c : Controller) (call : ControllerCall) : List Event :=
  match c with
  | .switched _ => [.controller call]
  | .alwaysOn => []

/-- A call of the controller as it stands in a trace. -/
def entries (c : Controller) (call : ControllerCall) : Trace :=
  (c.calls call).map .event

variable {c : Controller} {call : ControllerCall}

theorem eq_of_mem_calls {e : Event} (h : e ∈ c.calls call) : e = .controller call := by
  cases c with
  | switched _ => exact List.mem_singleton.1 h
  | alwaysOn => cases h

theorem call_apply (b : Board) : c.call call b = ⟨(), b, c.entries call⟩ := by
  cases c <;> rfl

@[simp] theorem events_entries : (c.entries call).events = c.calls call := by
  cases c <;> rfl

@[simp] theorem alarms_entries : (c.entries call).alarms = [] := by
  cases c <;> rfl

end Controller

namespace Loader

variable {l : Loader} {a : Attempt} {signal : Signal} {f : Flash} {b b₁ b₂ : Board}
  {es₁ es₂ : List Event}

/-! ## Recovery -/

theorem recover_goes_of_not_requested (h : l.build.recovery = true → signal.asserted = false)
    (f : Flash) (b : Board) :
    Run.Goes (l.recover f signal) b (.ok .notRequested) b
      (if l.build.recovery then signal.pinReads else []) := by
  unfold recover
  cases hb : l.build.recovery with
  | false => exact .pure _ _
  | true =>
    have hsample := signal.sample_goes b
    rw [h hb] at hsample
    exact .log_bind (.bind_silent (.lift hsample) (.pure _ _))

theorem recover_goes_of_requested {r : Except Failure Unit} (hb : l.build.recovery = true)
    (h : signal.asserted = true) (herase : Run.Goes (f.erasePage0 l.config) b r b₁ es₁) :
    Run.Goes (l.recover f signal) b (r.map fun _ => .succeeded) b₁ (signal.pinReads ++ es₁) := by
  have hsample := signal.sample_goes b
  rw [h] at hsample
  unfold recover
  rw [if_pos hb]
  refine .log_bind (.bind (.lift hsample) (.log_bind ?_))
  cases r with
  | error e => exact .bind_error (herase.logError _)
  | ok u => exact .bind_silent (herase.logError _) (.log_bind (.pure _ _))

/-! ## Before the images -/

/-- What an attempt does on the bus before its images: identification, and recovery if that is
requested. -/
def prepare (l : Loader) (signal : Signal) : Run (Flash × Recovery) := do
  let f ← l.probe
  return (f, ← l.recover f signal)

theorem prepare_goes_of_error {e : Failure}
    (hprobe : Run.Goes (Flash.probe l.build l.config) b (.error e) b₁ es₁) (signal : Signal) :
    Run.Goes (l.prepare signal) b (.error e) b₁ es₁ :=
  .bind_error (hprobe.logError _)

theorem prepare_goes_of_requested {r : Except Failure Unit}
    (hprobe : Run.Goes (Flash.probe l.build l.config) b (.ok f) b₁ es₁)
    (hb : l.build.recovery = true) (h : signal.asserted = true)
    (herase : Run.Goes (f.erasePage0 l.config) b₁ r b₂ es₂) :
    Run.Goes (l.prepare signal) b (r.map fun _ => (f, .succeeded)) b₂
      (es₁ ++ (signal.pinReads ++ es₂)) := by
  have hrecover := recover_goes_of_requested hb h herase
  refine .bind (hprobe.logError _) ?_
  cases r with
  | error e => exact .bind_error hrecover
  | ok u => exact .bind_silent hrecover (.pure _ _)

theorem prepare_goes_of_not_requested
    (hprobe : Run.Goes (Flash.probe l.build l.config) b (.ok f) b₁ es₁)
    (h : l.build.recovery = true → signal.asserted = false) :
    Run.Goes (l.prepare signal) b (.ok (f, .notRequested)) b₁
      (es₁ ++ if l.build.recovery then signal.pinReads else []) :=
  .bind (hprobe.logError _) (.bind_silent (recover_goes_of_not_requested h f b₁) (.pure _ _))

/-! ## The attempt on the bus -/

theorem boot_of_error {e : Failure} (h : (l.prepare a.signal b).value = .error e) :
    l.boot a b = ⟨a.untouched (.error e), (l.prepare a.signal b).board,
      (l.prepare a.signal b).trace⟩ := by
  refine (Drive.bind_apply (α := Except Failure (Flash × Recovery)) (l.prepare a.signal) _ b).trans
    ?_
  simp [h]

theorem boot_of_succeeded (h : (l.prepare a.signal b).value = .ok (f, .succeeded)) :
    l.boot a b = ⟨a.untouched (.ok .recoveryPerformed), (l.prepare a.signal b).board,
      (l.prepare a.signal b).trace⟩ := by
  refine (Drive.bind_apply (α := Except Failure (Flash × Recovery)) (l.prepare a.signal) _ b).trans
    ?_
  simp [h]

theorem boot_of_notRequested (h : (l.prepare a.signal b).value = .ok (f, .notRequested)) :
    l.boot a b = (f.loadImages a (l.prepare a.signal b).board).between
      (l.prepare a.signal b).trace [] := by
  refine (Drive.bind_apply (α := Except Failure (Flash × Recovery)) (l.prepare a.signal) _ b).trans
    ?_
  simp [h, Outcome.between]

/-- Without a device nothing else happens. -/
theorem boot_goes_of_error {e : Failure}
    (hprobe : Run.Goes (Flash.probe l.build l.config) b (.error e) b₁ es₁) :
    Drive.Goes (l.boot a) b (a.untouched (.error e)) b₁ es₁ :=
  Drive.Goes.bind_silent (prepare_goes_of_error hprobe a.signal) (.pure _ _)

theorem boot_goes_of_requested {r : Except Failure Unit}
    (hprobe : Run.Goes (Flash.probe l.build l.config) b (.ok f) b₁ es₁)
    (hb : l.build.recovery = true) (h : a.signal.asserted = true)
    (herase : Run.Goes (f.erasePage0 l.config) b₁ r b₂ es₂) :
    Drive.Goes (l.boot a) b (a.untouched (r.map fun _ => .recoveryPerformed)) b₂
      (es₁ ++ (a.signal.pinReads ++ es₂)) := by
  have hready := prepare_goes_of_requested hprobe hb h herase
  cases r with
  | error e => exact Drive.Goes.bind_silent hready (.pure _ _)
  | ok u => exact Drive.Goes.bind_silent hready (.pure _ _)

theorem boot_goes_of_not_requested {report : Report}
    (hprobe : Run.Goes (Flash.probe l.build l.config) b (.ok f) b₁ es₁)
    (h : l.build.recovery = true → a.signal.asserted = false)
    (hload : Drive.Goes (f.loadImages a) b₁ report b₂ es₂) :
    Drive.Goes (l.boot a) b report b₂
      (es₁ ++ (if l.build.recovery then a.signal.pinReads else []) ++ es₂) :=
  Drive.Goes.bind (prepare_goes_of_not_requested hprobe h) hload

/-! ## The whole attempt -/

theorem load_of_failing (h : l.controller = .switched false) (a : Attempt) (b : Board) :
    l.load a b = ⟨a.untouched (.error (.error (.probe .busInit))), b,
      [.event (.controller .init), .message .controllerInitFailed]⟩ := by
  simp [load, Controller.init, Controller.call, h, Drive.bind_apply]

/-- Around an attempt on the bus there are only the calls of the controller. -/
theorem load_eq_between (h : l.controller ≠ .switched false) (a : Attempt) (b : Board) :
    l.load a b = (l.boot a b).between
      (l.controller.entries .init ++ l.controller.entries .enable)
      (if (l.boot a b).value.isTrap then [] else l.controller.entries .disable) := by
  cases htrap : (l.boot a b).value.isTrap <;>
    simp [load, Controller.init, Controller.enable, Controller.disable, Controller.call_apply,
      Drive.bind_apply, Outcome.between, h, htrap]

/-- On a controller that does not initialise nothing else happens. -/
theorem load_goes_of_failing (h : l.controller = .switched false) (a : Attempt) (b : Board) :
    Drive.Goes (l.load a) b (a.untouched (.error (.error (.probe .busInit)))) b
      [.controller .init] := by
  have heq := load_of_failing h a b
  exact ⟨congrArg Outcome.value heq, congrArg Outcome.board heq, congrArg Outcome.events heq⟩

/-- An attempt on a controller that initialises is the attempt on the bus between its calls. -/
theorem load_goes (h : l.controller ≠ .switched false) {report : Report}
    (hboot : Drive.Goes (l.boot a) b report b₁ es₁) :
    Drive.Goes (l.load a) b report b₁
      (l.controller.calls .init ++ (l.controller.calls .enable ++ (es₁ ++
        if report.isTrap then [] else l.controller.calls .disable))) := by
  obtain ⟨rfl, rfl, rfl⟩ := hboot
  have heq := load_eq_between h a b
  refine ⟨by rw [heq]; rfl, by rw [heq]; rfl, ?_⟩
  rw [heq, Outcome.events_between, Trace.events_append, List.append_assoc,
    Controller.events_entries, Controller.events_entries]
  split
  · rfl
  · rw [Controller.events_entries]

end Loader

end FlashBoot
