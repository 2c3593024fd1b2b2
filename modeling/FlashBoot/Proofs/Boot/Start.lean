import FlashBoot.Proofs.Boot.Bounds

/-!
# How an attempt starts

What an attempt does before it gets to its images has nothing to do with them. `Loader.start`: on a
given board, all attempts with one signal end alike before their images and leave their requests
alone, or they all are the loading of their images (`Loader.Reaches`), with the same trace around
it. In the first case an error is logged exactly if one is reported; in the second that trace holds
none, and no event of a load.
-/

namespace FlashBoot

/-! ## The images -/

/-- The attempt to load nothing but this request. -/
def Attempt.only (a : Attempt) (r : Request) : Attempt := { a with image := r, tree := none }

namespace Flash

variable {f : Flash} {a : Attempt} {b : Board} {n : UInt32}

theorem loadImages_of_error {e : Failure}
    (h : (f.loadImage a.headers a.image b).value.result = .error e) :
    f.loadImages a b = ⟨⟨.error e, (f.loadImage a.headers a.image b).value.request, a.tree⟩,
      (f.loadImage a.headers a.image b).board, (f.loadImage a.headers a.image b).trace⟩ := by
  simp [loadImages, Drive.bind_apply, h]

theorem loadImages_of_ok (h : (f.loadImage a.headers a.image b).value.result = .ok n)
    (htree : a.tree = none) :
    f.loadImages a b =
      ⟨⟨.ok (.loaded n none), (f.loadImage a.headers a.image b).value.request, none⟩,
        (f.loadImage a.headers a.image b).board, (f.loadImage a.headers a.image b).trace⟩ := by
  simp [loadImages, Drive.bind_apply, h, htree]

/-- The second image is loaded on the board the first one leaves. -/
theorem loadImages_of_tree {tree : Request} {image second : Outcome Delivery}
    (himage : f.loadImage a.headers a.image b = image) (h : image.value.result = .ok n)
    (htree : a.tree = some tree) (hsecond : f.loadImage a.headers tree image.board = second) :
    f.loadImages a b =
      ⟨⟨second.value.result.map fun k => .loaded n (some k), image.value.request,
        some second.value.request⟩, second.board, image.trace ++ second.trace⟩ := by
  subst himage hsecond
  simp [loadImages, Drive.bind_apply, h, htree]

/-- The attempt to load a single request. -/
theorem loadImages_only {r : Request} {image : Outcome Delivery}
    (himage : f.loadImage a.headers r b = image) :
    f.loadImages (a.only r) b =
      ⟨⟨image.value.result.map (.loaded · none), image.value.request, none⟩, image.board,
        image.trace⟩ := by
  subst himage
  cases h : (f.loadImage a.headers r b).value.result with
  | error e => exact loadImages_of_error (a := a.only r) h
  | ok n => exact loadImages_of_ok (a := a.only r) h rfl

theorem loadImages_only_eq_loaded_iff {r : Request} {n : UInt32} :
    (f.loadImages (a.only r) b).value.result = .ok (.loaded n none) ↔
      (f.loadImage a.headers r b).value.result = .ok n := by
  rw [loadImages_only rfl]
  cases (f.loadImage a.headers r b).value.result <;> simp [Except.map]

end Flash

namespace Loader

variable {l : Loader} {a : Attempt} {signal : Signal} {b : Board} {f : Flash}

/-! ## Getting to the images -/

/-- An attempt with this signal gets to its images, to load them from the flash `f`. -/
structure Reaches (l : Loader) (signal : Signal) (b : Board) (f : Flash) : Prop where
  initialises : l.controller ≠ .switched false
  probe : (Flash.probe l.build l.config b).value = .ok f
  unasked : l.build.recovery = true → signal.asserted = false

theorem Reaches.eq (h : l.Reaches signal b f) {f' : Flash} (h' : l.Reaches signal b f') :
    f = f' :=
  Except.ok.inj (h.probe.symm.trans h'.probe)

theorem Reaches.known (h : l.Reaches signal b f) : f.descriptor.Known :=
  ((Flash.probe_known _ _).value_of_ok h.probe).descriptor

/-- What comes before the images. -/
theorem Reaches.prepare_goes (h : l.Reaches signal b f) :
    Run.Goes (l.prepare signal) b (.ok (f, .notRequested)) (Flash.probe l.build l.config b).board
      ((Flash.probe l.build l.config b).events ++
        if l.build.recovery then signal.pinReads else []) :=
  prepare_goes_of_not_requested ⟨h.probe, rfl, rfl⟩ h.unasked

theorem prepare_told (l : Loader) (signal : Signal) : Run.Told (l.prepare signal) := by
  refine .bind (.logError _ rfl) fun f => .bind ?_ fun _ => .pure _
  unfold recover
  split
  · exact f.recover_told signal l.config
  · exact .pure _

/-- What comes before the images logs an error exactly if it fails. -/
theorem prepare_alarms_iff (l : Loader) (signal : Signal) (b : Board) :
    (l.prepare signal b).trace.alarms ≠ [] ↔ Run.Failed (l.prepare signal b).value :=
  ⟨(prepare_confined (l.boots_unbounded signal).toPrepares).calm b, prepare_told l signal b⟩

/-- An attempt that finds no device, or is asked for recovery, is through before its images. -/
theorem prepare_cases (l : Loader) (signal : Signal) (b : Board) :
    (∃ f, (Flash.probe l.build l.config b).value = .ok f ∧
      (l.build.recovery = true → signal.asserted = false)) ∨
    (∃ e, (l.prepare signal b).value = .error e) ∨
    ∃ f, (l.prepare signal b).value = .ok (f, .succeeded) ∧ l.build.recovery = true ∧
      signal.asserted = true := by
  cases hprobe : (Flash.probe l.build l.config b).value with
  | error e => exact .inr (.inl ⟨e, (prepare_goes_of_error ⟨hprobe, rfl, rfl⟩ signal).value⟩)
  | ok f =>
    by_cases hasked : l.build.recovery = true ∧ signal.asserted = true
    · cases herase : (f.erasePage0 l.config (Flash.probe l.build l.config b).board).value with
      | error e =>
        have hready := prepare_goes_of_requested ⟨hprobe, rfl, rfl⟩ hasked.1 hasked.2
          ⟨herase, rfl, rfl⟩
        exact .inr (.inl ⟨e, hready.value⟩)
      | ok u =>
        have hready := prepare_goes_of_requested ⟨hprobe, rfl, rfl⟩ hasked.1 hasked.2
          ⟨herase, rfl, rfl⟩
        exact .inr (.inr ⟨f, hready.value, hasked⟩)
    · exact .inl ⟨f, rfl, fun h => by simpa [h] using hasked⟩

/-! ## The start -/

/-- An event of an attempt that is none of its loading. -/
def StartEvent (e : Event) : Prop :=
  (∃ call, e = .controller call) ∨ (∃ asked, e = .pinRead asked) ∨ e.Sends identifyOpcodes

/-- How the attempts with one signal start on a board. -/
inductive Start (l : Loader) (signal : Signal) (b : Board) : Prop
  /-- They end before they get to their images. -/
  | stops (result : Except Failure BootResult) (b' : Board) (t : Trace)
      (unreached : ∀ f, ¬ l.Reaches signal b f)
      (result_eq : (∃ e, result = .error e) ∨
        result = .ok .recoveryPerformed ∧ l.build.recovery = true ∧ signal.asserted = true)
      (alarms_iff : t.alarms ≠ [] ↔ Run.Failed result)
      (load_eq : ∀ a, a.signal = signal → l.load a b = ⟨a.untouched result, b', t⟩)
  /-- They load their images. -/
  | reaches (f : Flash) (opening closing : Trace)
      (reached : l.Reaches signal b f)
      (events : ∀ e ∈ opening.events ++ closing.events, StartEvent e)
      (alarms_opening : opening.alarms = [])
      (alarms_closing : closing.alarms = [])
      (load_eq : ∀ a, a.signal = signal → l.load a b =
        (f.loadImages a (Flash.probe l.build l.config b).board).between opening closing)

/-- What was identified never traps an attempt. -/
theorem isTrap_loadImages (hprobe : (Flash.probe l.build l.config b).value = .ok f) (a : Attempt)
    (b' : Board) : (f.loadImages a b').value.isTrap = false := by
  have hf := (Flash.probe_within l.build l.config).value_of_ok hprobe
  have hfail := (Flash.loadImages_within f a).value b'
  unfold Report.isTrap
  cases hr : (f.loadImages a b').value.result with
  | ok _ => rfl
  | error e => exact (hfail.2 e hr).isTrap_eq hf

/-- An attempt that gets to its images is the loading of them between what comes before and the
controller being switched off. -/
theorem load_eq_of_reaches (h : l.Reaches a.signal b f) : l.load a b =
    (f.loadImages a (Flash.probe l.build l.config b).board).between
      (l.controller.entries .init ++ l.controller.entries .enable ++ (l.prepare a.signal b).trace)
      (l.controller.entries .disable) := by
  obtain ⟨hvalue, hboard, -⟩ := h.prepare_goes
  change (l.prepare a.signal b).value = _ at hvalue
  change (l.prepare a.signal b).board = _ at hboard
  rw [load_eq_between h.initialises, boot_of_notRequested hvalue, Outcome.value_between,
    isTrap_loadImages h.probe, hboard]
  simp [Outcome.between]

theorem start_of_reaches (h : l.Reaches signal b f) : l.Start signal b := by
  obtain ⟨hvalue, -, hevents⟩ := h.prepare_goes
  change (l.prepare signal b).value = _ at hvalue
  change (l.prepare signal b).events = _ at hevents
  refine .reaches f (l.controller.entries .init ++ l.controller.entries .enable ++
    (l.prepare signal b).trace) (l.controller.entries .disable) h ?_ ?_ ?_ ?_
  · have hcalls : ∀ call, ∀ e ∈ l.controller.calls call, StartEvent e :=
      fun call e he => .inl ⟨call, l.controller.eq_of_mem_calls he⟩
    have hpins : ∀ e ∈ signal.pinReads, StartEvent e := by
      intro e he
      cases signal with
      | absent => cases he
      | activeLow pin => exact .inr (.inl ⟨_, List.mem_singleton.1 he⟩)
      | activeHigh pin => exact .inr (.inl ⟨_, List.mem_singleton.1 he⟩)
    have hprepare : ∀ e ∈ (l.prepare signal b).trace.events, StartEvent e := by
      intro e he
      rw [← Outcome.events, hevents, List.mem_append] at he
      obtain he | he := he
      · exact .inr (.inr (Flash.probe_sends l.build l.config b e he))
      · split at he
        · exact hpins e he
        · cases he
    intro e he
    simp only [Trace.events_append, Controller.events_entries, List.mem_append] at he
    obtain ((he | he) | he) | he := he
    · exact hcalls _ e he
    · exact hcalls _ e he
    · exact hprepare e he
    · exact hcalls _ e he
  · have hnone : (l.prepare signal b).trace.alarms = [] :=
      Run.alarms_eq_nil (prepare_alarms_iff l signal b).1 hvalue
    simp [hnone]
  · simp
  · rintro a rfl
    exact load_eq_of_reaches h

/-- How the trace of an attempt with this result ends: the controller is switched off unless the
machine stopped. -/
def closing (l : Loader) : Except Failure BootResult → Trace
  | .error (.trap _) => []
  | _ => l.controller.entries .disable

theorem alarms_closing (l : Loader) (result : Except Failure BootResult) :
    (l.closing result).alarms = [] := by
  unfold closing
  split <;> simp

/-- The attempt ends with what came before its images. -/
theorem start_of_stopping (hinit : l.controller ≠ .switched false)
    (result : Except Failure BootResult) (unreached : ∀ f, ¬ l.Reaches signal b f)
    (hresult : (∃ e, result = .error e) ∨
      result = .ok .recoveryPerformed ∧ l.build.recovery = true ∧ signal.asserted = true)
    (hfailed : Run.Failed (l.prepare signal b).value ↔ Run.Failed result)
    (hboot : ∀ a, a.signal = signal → l.boot a b =
      ⟨a.untouched result, (l.prepare signal b).board, (l.prepare signal b).trace⟩) :
    l.Start signal b := by
  refine .stops result (l.prepare signal b).board
    (l.controller.entries .init ++ l.controller.entries .enable ++
      ((l.prepare signal b).trace ++ l.closing result)) unreached hresult ?_ ?_
  · simp only [Trace.alarms_append, Controller.alarms_entries, alarms_closing, List.nil_append,
      List.append_nil, prepare_alarms_iff, hfailed]
  · rintro a rfl
    rw [load_eq_between hinit, hboot a rfl]
    obtain ⟨e | t, rfl⟩ | ⟨rfl, -⟩ := hresult <;> rfl

theorem start (l : Loader) (signal : Signal) (b : Board) : l.Start signal b := by
  by_cases hinit : l.controller = .switched false
  · refine .stops _ _ _ (fun f hf => hf.initialises hinit) (.inl ⟨_, rfl⟩) ?_
      fun a _ => load_of_failing hinit a b
    exact iff_of_true (List.cons_ne_nil _ _) ⟨_, rfl⟩
  have hready : ∀ f, l.Reaches signal b f → (l.prepare signal b).value = .ok (f, .notRequested) :=
    fun f hf => hf.prepare_goes.value
  obtain ⟨f, hprobe, hunasked⟩ | ⟨e, he⟩ | ⟨f, hf, hasked⟩ := prepare_cases l signal b
  · exact start_of_reaches ⟨hinit, hprobe, hunasked⟩
  · refine start_of_stopping hinit (.error e) (fun f hf => ?_) (.inl ⟨e, rfl⟩) ?_ ?_
    · cases he.symm.trans (hready f hf)
    · rw [he]
      exact ⟨Run.Failed.of_error, Run.Failed.of_error⟩
    · rintro a rfl
      exact boot_of_error he
  · refine start_of_stopping hinit (.ok .recoveryPerformed) (fun f' hf' => ?_)
      (.inr ⟨rfl, hasked⟩) ?_ ?_
    · cases hf.symm.trans (hready f' hf')
    · rw [hf]
      exact iff_of_false (Run.not_failed_ok _) (Run.not_failed_ok _)
    · rintro a rfl
      exact boot_of_succeeded hf

end Loader

end FlashBoot
