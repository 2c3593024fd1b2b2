import FlashBoot.Proofs.Boot.Recovery
import FlashBoot.Proofs.Boot.Start
import FlashBoot.Proofs.Catalog
import FlashBoot.Proofs.Device.Invariant

/-!
# What the builds have in common

A build changes which tables are scanned and whether the recovery pin is sampled, and nothing else.
`Loader.load_builds`: on a device that the tables of a build leave alone, its attempts are those of
the build without these tables, up to the sample of the pin.

* `Device.identify_congr`: two lists of candidates are the same to identification if the lookup of
  what the device answers ends alike in both.
* `Loader.load_congr`: builds that are the same to identification, and both have recovery or both
  have not, are the same to an attempt.
* `Loader.load_sameButPin`: one without recovery does what one with it does when it is not asked.
-/

namespace FlashBoot

/-! ## Candidates -/

namespace Build

variable {build : Build} {custom : List Part} {id : JedecId}

/-- Tables without a match are skipped. -/
theorem find?_candidates_of_none (h : ∀ p ∈ build.parts, ¬ p.Matches id) :
    Part.find? id (build.candidates custom) = Part.find? id custom :=
  Part.find?_append_of_none (fun _ hp => idLength_le hp) h

theorem candidates_bare (custom : List Part) : bare.candidates custom = custom := rfl

theorem parts_withAtmel : withAtmel.parts = Catalog.atmel ++ standard.parts := rfl

theorem find?_withAtmel_of_none (h : ∀ p ∈ Catalog.atmel, ¬ p.Matches id) :
    Part.find? id (withAtmel.candidates custom) = Part.find? id (standard.candidates custom) := by
  have hlen : ∀ p ∈ Catalog.atmel, p.idLength ≤ 6 := fun p hp =>
    idLength_le (parts_withAtmel ▸ List.mem_append_left _ hp)
  rw [candidates, parts_withAtmel, List.append_assoc]
  exact Part.find?_append_of_none hlen h

end Build

/-- A part that matches has the manufacturer of the device as its first byte. -/
theorem Part.Matches.manufacturer {p : Part} {id : JedecId} (h : p.Matches id) :
    p.id[0] = id.manufacturer := by
  obtain ⟨hpos, -, htake⟩ := h
  have hfirst := congrArg (·[0]?) htake
  simpa [List.getElem?_take, hpos, JedecId.manufacturer] using hfirst

/-- The Atmel parts are parts of the manufacturer `0x1F`. -/
theorem not_matches_atmel {id : JedecId} (h : id.manufacturer ≠ 0x1F) :
    ∀ p ∈ Catalog.atmel, ¬ p.Matches id := by
  have hall : ∀ p ∈ Catalog.atmel, p.id[0] = 0x1F := by decide
  intro p hp hmatch
  exact h (hmatch.manufacturer.symm.trans (hall p hp))

/-! ## Identification -/

namespace Device

variable {candidates candidates' : List Part} {b : Board}

theorem identify_congr (h : Part.find? (.ofBytes b.id) candidates =
    Part.find? (.ofBytes b.id) candidates') : identify candidates b = identify candidates' b := by
  refine Run.bind_congr fun id hid => ?_
  obtain rfl := Bus.readId_of_ok hid
  rw [h]

end Device

/-! ## The sample of the pin -/

theorem Signal.filter_pinReads (s : Signal) : s.pinReads.filter (!·.isPinRead) = [] := by
  cases s <;> rfl

/-- Everything ends the same, and the events are the same but for a sample of the recovery pin in
the second outcome. -/
structure Outcome.SameButPin {α : Type} (o o' : Outcome α) : Prop where
  value : o.value = o'.value
  board : o.board = o'.board
  events : o.events = o'.events.filter (!·.isPinRead)
  once : o'.events.countP Event.isPinRead ≤ 1

namespace Outcome.SameButPin

variable {α : Type} {o o' : Outcome α}

theorem of_sampled {before after : List Event} {s : Signal} (hvalue : o.value = o'.value)
    (hboard : o.board = o'.board) (hevents : o.events = before ++ after)
    (hevents' : o'.events = before ++ s.pinReads ++ after) (hbefore : Pinless before)
    (hafter : Pinless after) : o.SameButPin o' := by
  refine ⟨hvalue, hboard, ?_, hevents' ▸ s.countP_sampled_le hbefore hafter⟩
  rw [hevents, hevents', List.filter_append, List.filter_append, s.filter_pinReads,
    hbefore.filter_eq, hafter.filter_eq, List.append_nil]

/-- Without samples the events have to be the same. -/
theorem of_pinless (hvalue : o.value = o'.value) (hboard : o.board = o'.board)
    (hevents : o.events = o'.events) (h : Pinless o.events) : o.SameButPin o' := by
  refine of_sampled (s := .absent) hvalue hboard (List.append_nil _).symm ?_ h nofun
  rw [← hevents]
  exact ((List.append_nil _).trans (List.append_nil _)).symm

theorem between {opening closing : Trace} (h : o.SameButPin o') (hopening : Pinless opening.events)
    (hclosing : Pinless closing.events) :
    (o.between opening closing).SameButPin (o'.between opening closing) := by
  refine ⟨h.value, h.board, ?_, ?_⟩
  · rw [events_between, events_between, List.filter_append, List.filter_append,
      hopening.filter_eq, hclosing.filter_eq, h.events]
  · rw [events_between, List.countP_append, List.countP_append, hopening.countP_eq,
      hclosing.countP_eq]
    have honce := h.once
    omega

end Outcome.SameButPin

/-! ## Attempts -/

namespace Loader

variable {l l' : Loader} {a : Attempt} {b : Board} {signal : Signal}

/-- The loaders are set up alike and identify the device of the board alike. -/
structure SameDevice (l l' : Loader) (b : Board) : Prop where
  config : l.config = l'.config
  controller : l.controller = l'.controller
  probe : Flash.probe l.build l.config b = Flash.probe l'.build l'.config b

theorem SameDevice.goes (h : SameDevice l l' b) {r : Except Failure Flash} {b₁ : Board}
    {es : List Event} (hprobe : Run.Goes (Flash.probe l.build l.config) b r b₁ es) :
    Run.Goes (Flash.probe l'.build l'.config) b r b₁ es := by
  have hsame : ExceptT.run (Flash.probe l'.build l'.config) b =
      ExceptT.run (Flash.probe l.build l.config) b := h.probe.symm
  exact ⟨hsame ▸ hprobe.value, hsame ▸ hprobe.board, hsame ▸ hprobe.events⟩

/-- What the lookup of the identifier ends with is all that the builds make of it. -/
theorem sameDevice {build build' : Build} {config : Config} (controller : Controller)
    (h : Part.find? (.ofBytes b.id) (build.candidates config.customParts) =
      Part.find? (.ofBytes b.id) (build'.candidates config.customParts)) :
    SameDevice ⟨build, config, controller⟩ ⟨build', config, controller⟩ b := by
  refine ⟨rfl, rfl, ?_⟩
  rw [Flash.probe, Flash.probe, Run.bind_apply, Run.bind_apply, Device.identify_congr h]

theorem prepare_congr (h : SameDevice l l' b) (hrecovery : l.build.recovery = l'.build.recovery)
    (signal : Signal) : l.prepare signal b = l'.prepare signal b := by
  have hprobe : l.probe b = l'.probe b := by
    rw [probe, probe, Run.logError_apply, Run.logError_apply, h.probe]
  have hrecover : l.recover = l'.recover := by
    funext f signal
    simp only [recover, hrecovery, h.config]
  rw [prepare, prepare, Run.bind_apply, Run.bind_apply, hprobe, hrecover]

theorem boot_congr (h : SameDevice l l' b) (hrecovery : l.build.recovery = l'.build.recovery)
    (a : Attempt) : l.boot a b = l'.boot a b := by
  have hprepare := prepare_congr h hrecovery a.signal
  cases hv : (l.prepare a.signal b).value with
  | error e => rw [boot_of_error hv, boot_of_error (hprepare ▸ hv), hprepare]
  | ok ready =>
    obtain ⟨f, outcome⟩ := ready
    cases outcome with
    | succeeded => rw [boot_of_succeeded hv, boot_of_succeeded (hprepare ▸ hv), hprepare]
    | notRequested => rw [boot_of_notRequested hv, boot_of_notRequested (hprepare ▸ hv), hprepare]

theorem load_congr (h : SameDevice l l' b) (hrecovery : l.build.recovery = l'.build.recovery)
    (a : Attempt) : l.load a b = l'.load a b := by
  have hcontroller := h.controller
  by_cases hinit : l.controller = .switched false
  · rw [load_of_failing hinit, load_of_failing (hcontroller ▸ hinit)]
  · rw [load_eq_between hinit, load_eq_between (hcontroller ▸ hinit), boot_congr h hrecovery,
      hcontroller]

/-- Not being able to recover differs from not being asked to in the sample of the pin only. -/
theorem boot_sameButPin (h : SameDevice l l' b) (hbare : l.build.recovery = false)
    (hrecovery : l'.build.recovery = true) (hsignal : signal.asserted = false) :
    (l.boot a b).SameButPin (l'.boot { a with signal } b) := by
  have hid := pinless_of_sends (Flash.probe_sends l.build l.config b)
  cases hv : (Flash.probe l.build l.config b).value with
  | error e =>
    have hprobe : Run.Goes (Flash.probe l.build l.config) b (.error e) _ _ := ⟨hv, rfl, rfl⟩
    have hboot := boot_goes_of_error (a := a) hprobe
    have hboot' := boot_goes_of_error (a := { a with signal }) (h.goes hprobe)
    exact .of_pinless (hboot.value.trans hboot'.value.symm) (hboot.board.trans hboot'.board.symm)
      (hboot.events.trans hboot'.events.symm) (hboot.events ▸ hid)
  | ok f =>
    have hprobe : Run.Goes (Flash.probe l.build l.config) b (.ok f) _ _ := ⟨hv, rfl, rfl⟩
    have hload := (Flash.loadImages_within f a).events (Flash.probe l.build l.config b).board
    have hrest : Pinless _ := fun e he => (hload e he).isPinRead_eq
    have hboot := boot_goes_of_not_requested (a := a) hprobe
      (fun hr => nomatch hbare.symm.trans hr) ⟨rfl, rfl, rfl⟩
    have hboot' := boot_goes_of_not_requested (a := { a with signal }) (h.goes hprobe)
      (fun _ => hsignal) ⟨rfl, rfl, rfl⟩
    rw [if_neg (by simp [hbare]), List.append_nil] at hboot
    rw [if_pos hrecovery] at hboot'
    exact .of_sampled (s := signal) (hboot.value.trans hboot'.value.symm)
      (hboot.board.trans hboot'.board.symm) hboot.events hboot'.events hid hrest

theorem load_sameButPin (h : SameDevice l l' b) (hbare : l.build.recovery = false)
    (hrecovery : l'.build.recovery = true) (hsignal : signal.asserted = false) :
    (l.load a b).SameButPin (l'.load { a with signal } b) := by
  have hcalls : ∀ call, Pinless (l.controller.entries call).events := by
    intro call e he
    rw [Controller.events_entries] at he
    rw [l.controller.eq_of_mem_calls he]
    rfl
  by_cases hinit : l.controller = .switched false
  · rw [load_of_failing hinit, load_of_failing (h.controller ▸ hinit)]
    exact .of_pinless rfl rfl rfl fun e he => List.mem_singleton.1 he ▸ rfl
  · have hboot := boot_sameButPin (a := a) h hbare hrecovery hsignal
    rw [load_eq_between hinit, load_eq_between (h.controller ▸ hinit), ← hboot.value,
      ← h.controller]
    refine hboot.between ?_ ?_
    · rw [Trace.events_append]
      exact (hcalls .init).append (hcalls .enable)
    · split
      · exact nofun
      · exact hcalls .disable

/-- **Builds agree where they should.** On a device that no part of the standard build matches, an
attempt in the bare build is one in the standard build that is not asked for recovery, but for the
sample of the pin. On a device that no Atmel part matches, and so on every device of another
manufacturer, the Atmel tables make no difference. -/
theorem load_builds (config : Config) (controller : Controller) (a : Attempt) (b : Board) :
    ((∀ p ∈ Build.standard.parts, ¬ p.Matches (.ofBytes b.id)) →
      Device.identify (Build.bare.candidates config.customParts) b =
        Device.identify (Build.standard.candidates config.customParts) b ∧
      ∀ signal : Signal, signal.asserted = false →
        (load ⟨.bare, config, controller⟩ a b).SameButPin
          (load ⟨.standard, config, controller⟩ { a with signal } b)) ∧
    ((∀ p ∈ Catalog.atmel, ¬ p.Matches (.ofBytes b.id)) →
      Device.identify (Build.withAtmel.candidates config.customParts) b =
        Device.identify (Build.standard.candidates config.customParts) b ∧
      load ⟨.withAtmel, config, controller⟩ a b = load ⟨.standard, config, controller⟩ a b) ∧
    (b.id.getD 0 0 ≠ 0x1F → ∀ p ∈ Catalog.atmel, ¬ p.Matches (.ofBytes b.id)) := by
  refine ⟨fun hnone => ?_, fun hnone => ?_, fun hother => ?_⟩
  · have hfind : Part.find? (.ofBytes b.id) (Build.bare.candidates config.customParts) =
        Part.find? (.ofBytes b.id) (Build.standard.candidates config.customParts) := by
      rw [Build.candidates_bare, Build.find?_candidates_of_none hnone]
    exact ⟨Device.identify_congr hfind,
      fun signal hsignal => load_sameButPin (sameDevice controller hfind) rfl rfl hsignal⟩
  · have hfind : Part.find? (.ofBytes b.id) (Build.withAtmel.candidates config.customParts) =
        Part.find? (.ofBytes b.id) (Build.standard.candidates config.customParts) :=
      Build.find?_withAtmel_of_none hnone
    exact ⟨Device.identify_congr hfind, load_congr (sameDevice controller hfind) rfl a⟩
  · rw [← JedecId.manufacturer_ofBytes] at hother
    exact not_matches_atmel hother

end Loader

/-- An M25P is no part of the tables, so the pressed button does not matter to the bare build. -/
theorem load_builds_m25p :
    (∀ p ∈ Build.standard.parts, ¬ p.Matches (.ofBytes Board.m25p.id)) ∧
    (Loader.load ⟨.bare, .standard, .alwaysOn⟩ .rescue .m25p).SameButPin
      (Loader.standard.load .kernel .m25p) ∧
    (∀ p ∈ Catalog.atmel, ¬ p.Matches (.ofBytes Board.m25p.id)) ∧
    Loader.load ⟨.withAtmel, .standard, .alwaysOn⟩ .rescue .m25p =
      Loader.standard.load .rescue .m25p := by
  obtain ⟨hbare, hatmel, hother⟩ := Loader.load_builds .standard .alwaysOn .rescue .m25p
  have hnone : ∀ p ∈ Build.standard.parts, ¬ p.Matches (.ofBytes Board.m25p.id) := by
    decide +kernel
  exact ⟨hnone, (hbare hnone).2 (.activeLow .high) rfl, hother (by decide),
    (hatmel (hother (by decide))).2⟩

end FlashBoot
