import FlashBoot.Proofs.Boot.Bounds
import FlashBoot.Proofs.Boot.Loading
import FlashBoot.Proofs.Flash.EraseSafety

/-!
# Booting and recovery exclude each other

`Loader.load_excludes`: in a build with recovery, whatever the board does,

* the pin is sampled at most once, between identification and everything else on the bus, and not at
  all without a device (`Excludes.unidentified`, `Excludes.sampled`, `Excludes.once`);
* an attempt that is asked for recovery reads no image and leaves its requests alone, and reports
  success only when its one erase command went well (`Excludes.recovery`);
* any other attempt only identifies and reads (`Excludes.booting`).
-/

namespace FlashBoot

/-! ## Samples of the pin -/

theorem Signal.mem_sampled (s : Signal) {id rest : List Event} {e : Event}
    (h : e ∈ id ++ s.pinReads ++ rest) : e ∈ id ∨ e.isPinRead = true ∨ e ∈ rest := by
  have hpin : e ∈ s.pinReads → e.isPinRead = true := by
    intro h
    cases s with
    | absent => cases h
    | activeLow pin => exact List.mem_singleton.1 h ▸ rfl
    | activeHigh pin => exact List.mem_singleton.1 h ▸ rfl
  rcases List.mem_append.1 h with h | h
  · rcases List.mem_append.1 h with h | h
    · exact .inl h
    · exact .inr (.inl (hpin h))
  · exact .inr (.inr h)

/-- Only the samples between identification and the rest look at the pin. -/
theorem Signal.countP_sampled_le (s : Signal) {id rest : List Event} (hid : Pinless id)
    (hrest : Pinless rest) : (id ++ s.pinReads ++ rest).countP Event.isPinRead ≤ 1 := by
  have hs : s.pinReads.countP Event.isPinRead ≤ 1 := by
    cases s with
    | absent => decide
    | activeLow pin => exact Nat.le_refl 1
    | activeHigh pin => exact Nat.le_refl 1
  rw [List.countP_append, List.countP_append, hid.countP_eq, hrest.countP_eq]
  omega

/-! ## Loading -/

theorem Flash.LoadEvent.isPinRead_eq {g : Geometry} {e : Event} (h : Flash.LoadEvent g e) :
    e.isPinRead = false := by
  rcases h with h | ⟨_, _, rfl⟩
  · exact h.issues.sends.isPinRead_eq
  · rfl

/-! ## The attempt -/

/-- What an attempt on the board `b` keeps to: `report` is its report, `es` are its events. -/
structure Excludes (l : Loader) (a : Attempt) (b : Board) (report : Report) (es : List Event) :
    Prop where
  /-- Without a device the pin is not sampled. -/
  unidentified : ∀ e, (Flash.probe l.build l.config b).value = .error e → Pinless es
  /-- With one, the samples come after the last transaction of the identification and before every
  other one. -/
  sampled : ∀ f, (Flash.probe l.build l.config b).value = .ok f → ∃ opening rest,
    es = opening ++ (Flash.probe l.build l.config b).events ++ a.signal.pinReads ++ rest ∧
      (∀ e ∈ opening, ∃ call, e = .controller call) ∧
      (∀ e ∈ (Flash.probe l.build l.config b).events, e.Sends identifyOpcodes) ∧ Pinless rest
  /-- The pin is sampled at most once. -/
  once : es.countP Event.isPinRead ≤ 1
  /-- An attempt that is asked for recovery performs it or fails like an erase. It reads nothing,
  asks no header parser and leaves its requests as they were, and if it performs recovery then it
  has sent exactly one erase command, which went well. -/
  recovery : ∀ f, (Flash.probe l.build l.config b).value = .ok f → a.signal.asserted = true →
    (report.result = .ok .recoveryPerformed ∨
      ∃ e, report.result = .error e ∧ Flash.EraseFailure e) ∧
    sendCount .fastRead es = 0 ∧ headerCalls es = [] ∧
    report.image = a.image ∧ report.tree = a.tree ∧
    (report.result = .ok .recoveryPerformed →
      eraseSends es = [.sent (Flash.eraseCommand f.descriptor.interface)])
  /-- Any other attempt neither performs recovery nor fails like an erase, sends nothing but
  identification and reads, and waits for nothing. -/
  booting : a.signal.asserted = false →
    report.result ≠ .ok .recoveryPerformed ∧ report.result ≠ .error (.error .protect) ∧
    report.result ≠ .error (.error .timeout) ∧
    (∀ t, .transaction t ∈ es →
      (Event.transaction t).Sends [.readId, .dataflashStatus, .fastRead]) ∧
    ∀ microseconds, .delay microseconds ∉ es

/-- Calls of the controller around the events change nothing of it. -/
theorem Excludes.between {l : Loader} {a : Attempt} {b : Board} {report : Report}
    {es opening closing : List Event} (h : Excludes l a b report es) (hopening : OnlyCalls opening)
    (hclosing : OnlyCalls closing) : Excludes l a b report (opening ++ es ++ closing) := by
  refine ⟨fun e he => ?_, fun f hf => ?_, ?_, fun f hf hs => ?_, fun hs => ?_⟩
  · exact (hopening.pinless.append (h.unidentified e he)).append hclosing.pinless
  · obtain ⟨opening', rest, rfl, hopening', hid, hrest⟩ := h.sampled f hf
    refine ⟨opening ++ opening', rest ++ closing, by simp only [List.append_assoc],
      hopening.append hopening', hid, hrest.append hclosing.pinless⟩
  · rw [List.countP_append, List.countP_append, hopening.pinless.countP_eq,
      hclosing.pinless.countP_eq]
    have honce := h.once
    omega
  · obtain ⟨hresult, hread, hheaders, himage, htree, herase⟩ := h.recovery f hf hs
    refine ⟨hresult, ?_, ?_, himage, htree, fun hok => ?_⟩
    · rw [sendCount_append, sendCount_append, hopening.sendCount_eq, hread, hclosing.sendCount_eq]
    · rw [headerCalls_append, headerCalls_append, hopening.headerCalls_eq, hheaders,
        hclosing.headerCalls_eq]
      rfl
    · rw [eraseSends_append, eraseSends_append, hopening.eraseSends_eq, herase hok,
        hclosing.eraseSends_eq]
      rfl
  · obtain ⟨hok, hprotect, htimeout, hsent, hdelay⟩ := h.booting hs
    refine ⟨hok, hprotect, htimeout, fun t ht => ?_, fun d hd => ?_⟩
    · rcases hopening.mem_between hclosing ht with ht | ⟨call, hcall⟩
      · exact hsent t ht
      · cases hcall
    · rcases hopening.mem_between hclosing hd with hd | ⟨call, hcall⟩
      · exact hdelay d hd
      · cases hcall

namespace Loader

variable {l : Loader} {a : Attempt} {b : Board} {f : Flash}

theorem excludes_of_error {e : Failure}
    (hprobe : (Flash.probe l.build l.config b).value = .error e) :
    Excludes l a b (a.untouched (.error e)) (Flash.probe l.build l.config b).events := by
  have hsends := Flash.probe_sends l.build l.config b
  have hpinless := pinless_of_sends hsends
  refine ⟨fun _ _ => hpinless, fun f hf => ?_, ?_, fun f hf => ?_, fun _ => ?_⟩
  · rw [hprobe] at hf
    cases hf
  · rw [hpinless.countP_eq]
    omega
  · rw [hprobe] at hf
    cases hf
  · have hfail := (Flash.probe_within l.build l.config).failure_of_error hprobe
    refine ⟨nofun, ?_, ?_, fun t ht => ?_, fun d hd => (hsends _ hd).elim⟩
    · rintro ⟨⟩
      rcases hfail with ⟨_, h⟩ | ⟨_, h⟩ | ⟨_, _, h, -⟩ <;> cases h
    · rintro ⟨⟩
      rcases hfail with ⟨_, h⟩ | ⟨_, h⟩ | ⟨_, _, h, -⟩ <;> cases h
    · exact (hsends _ ht).mono (by decide)

theorem excludes_of_requested (hprobe : (Flash.probe l.build l.config b).value = .ok f)
    (hs : a.signal.asserted = true) {b₁ : Board} :
    Excludes l a b
      (a.untouched ((f.erasePage0 l.config b₁).value.map fun _ => .recoveryPerformed))
      ((Flash.probe l.build l.config b).events ++ a.signal.pinReads ++
        (f.erasePage0 l.config b₁).events) := by
  have hsends := Flash.probe_sends l.build l.config b
  have hwithin := Flash.erasePage0_within f l.config
  have herase : ∀ e ∈ (f.erasePage0 l.config b₁).events,
      Flash.EraseEvent f.descriptor.interface e := Drive.Within.events hwithin b₁
  have hid := pinless_of_sends hsends
  have hrest : Pinless (f.erasePage0 l.config b₁).events :=
    fun e he => (herase e he).isPinRead_eq
  refine ⟨fun e he => ?_, fun f' hf => ?_, a.signal.countP_sampled_le hid hrest, fun f' hf _ => ?_,
    fun hs' => ?_⟩
  · rw [hprobe] at he
    cases he
  · exact ⟨[], _, by simp, fun _ he => absurd he List.not_mem_nil, hsends, hrest⟩
  · rw [hprobe] at hf
    obtain rfl := Except.ok.inj hf
    refine ⟨?_, ?_, ?_, rfl, rfl, fun hok => ?_⟩
    · cases hv : (f.erasePage0 l.config b₁).value with
      | ok u => exact .inl rfl
      | error e => exact .inr ⟨e, rfl, hwithin.failure_of_error hv⟩
    · have hnone : sendCount .fastRead (f.erasePage0 l.config b₁).events = 0 :=
        sendCount_eq_zero fun e he => hasOpcode_eq_of_erase (herase e he)
          (by cases f.descriptor.interface <;> decide)
      have hnone' : sendCount .fastRead (Flash.probe l.build l.config b).events = 0 :=
        sendCount_eq_zero fun e he => hasOpcode_eq_of_sends (hsends e he) (by decide)
      rw [sendCount_append, sendCount_append, hnone, hnone']
      cases a.signal <;> rfl
    · rw [headerCalls_append, headerCalls_append, headerCalls_of_sends hsends,
        headerCalls_of_erase herase]
      cases a.signal <;> rfl
    · have hv : (f.erasePage0 l.config b₁).value = .ok () := by
        cases hv : (f.erasePage0 l.config b₁).value with
        | ok u => rfl
        | error e =>
          rw [hv] at hok
          cases hok
      have hnone : eraseSends (Flash.probe l.build l.config b).events = [] := by
        refine List.filter_eq_nil_iff.2 fun e he => ?_
        simp [hasOpcode_eq_of_sends (hsends e he) (show Opcode.blockErase ∉ _ by decide),
          hasOpcode_eq_of_sends (hsends e he) (show Opcode.pageErase ∉ _ by decide)]
      rw [eraseSends_append, eraseSends_append, hnone, Flash.eraseSends_erasePage0 hv]
      cases a.signal <;> rfl
  · rw [hs] at hs'
    cases hs'

theorem excludes_of_not_requested (hprobe : (Flash.probe l.build l.config b).value = .ok f)
    (hs : a.signal.asserted = false) {b₁ : Board} :
    Excludes l a b (f.loadImages a b₁).value
      ((Flash.probe l.build l.config b).events ++ a.signal.pinReads ++
        (f.loadImages a b₁).events) := by
  have hsends := Flash.probe_sends l.build l.config b
  have hwithin := Flash.loadImages_within f a
  have hload := hwithin.events b₁
  have hid := pinless_of_sends hsends
  have hrest : Pinless (f.loadImages a b₁).events := fun e he => (hload e he).isPinRead_eq
  refine ⟨fun e he => ?_, fun f' hf => ?_, a.signal.countP_sampled_le hid hrest,
    fun f' hf hs' => ?_, fun _ => ?_⟩
  · rw [hprobe] at he
    cases he
  · exact ⟨[], _, by simp, fun _ he => absurd he List.not_mem_nil, hsends, hrest⟩
  · rw [hs] at hs'
    cases hs'
  · obtain ⟨hok, hfail⟩ := hwithin.value b₁
    refine ⟨hok, fun h => ?_, fun h => ?_, fun t ht => ?_, fun d hd => ?_⟩
    · rcases hfail _ h with (⟨_, h⟩ | h | ⟨_, h, -⟩) | h <;> cases h
    · rcases hfail _ h with (⟨_, h⟩ | h | ⟨_, h, -⟩) | h <;> cases h
    · rcases a.signal.mem_sampled ht with ht | hpin | ht
      · exact (hsends _ ht).mono (by decide)
      · cases hpin
      · rcases hload _ ht with h | ⟨_, _, h⟩
        · exact h.issues.sends.mono (by decide)
        · cases h
    · rcases a.signal.mem_sampled hd with hd | hpin | hd
      · exact (hsends _ hd).elim
      · cases hpin
      · rcases hload _ hd with h | ⟨_, _, h⟩
        · exact h.issues.sends.elim
        · cases h

/-- The attempt on the bus lies between calls of the controller. -/
theorem load_between (hinit : l.controller ≠ .switched false) {report : Report} {b₁ : Board}
    {es : List Event} (hboot : Drive.Goes (l.boot a) b report b₁ es) :
    ∃ opening closing, OnlyCalls opening ∧ OnlyCalls closing ∧ (l.load a b).value = report ∧
      (l.load a b).events = opening ++ es ++ closing := by
  have hgoes := load_goes hinit hboot
  have hcalls : ∀ call, OnlyCalls (l.controller.calls call) :=
    fun call _ he => ⟨call, l.controller.eq_of_mem_calls he⟩
  refine ⟨l.controller.calls .init ++ l.controller.calls .enable,
    if report.isTrap then [] else l.controller.calls .disable,
    (hcalls .init).append (hcalls .enable), ?_, hgoes.value, ?_⟩
  · split
    · exact fun _ he => absurd he List.not_mem_nil
    · exact hcalls .disable
  · rw [hgoes.events]
    simp only [List.append_assoc]

/-- In a build with recovery and on a controller that initialises, an attempt either boots or
recovers, and a boot never changes the device. -/
theorem load_excludes (hrecovery : l.build.recovery = true) (hinit : l.controller ≠ .switched false)
    (a : Attempt) (b : Board) : Excludes l a b (l.load a b).value (l.load a b).events := by
  have hbetween : ∀ {report b₁ es}, Drive.Goes (l.boot a) b report b₁ es →
      Excludes l a b report es → Excludes l a b (l.load a b).value (l.load a b).events := by
    intro report b₁ es hboot hexcludes
    obtain ⟨opening, closing, hopening, hclosing, hvalue, hevents⟩ := load_between hinit hboot
    rw [hvalue, hevents]
    exact hexcludes.between hopening hclosing
  cases hprobe : (Flash.probe l.build l.config b).value with
  | error e => exact hbetween (boot_goes_of_error ⟨hprobe, rfl, rfl⟩) (excludes_of_error hprobe)
  | ok f =>
    have hpath : Run.Goes (Flash.probe l.build l.config) b (.ok f)
        (Flash.probe l.build l.config b).board (Flash.probe l.build l.config b).events :=
      ⟨hprobe, rfl, rfl⟩
    cases hs : a.signal.asserted with
    | true =>
      have hboot := boot_goes_of_requested hpath hrecovery hs ⟨rfl, rfl, rfl⟩
      rw [← List.append_assoc] at hboot
      exact hbetween hboot (excludes_of_requested hprobe hs)
    | false =>
      have hboot := boot_goes_of_not_requested hpath (fun _ => hs) ⟨rfl, rfl, rfl⟩
      rw [if_pos hrecovery] at hboot
      exact hbetween hboot (excludes_of_not_requested hprobe hs)

end Loader

/-- An M25P without protection. -/
def Board.unprotectedM25p : Board := { Board.m25p with norStatus := .ofBytes #[0x00] }

/-- An attempt whose button is pressed. -/
def Attempt.rescue : Attempt := { Attempt.kernel with signal := .activeLow .low }

theorem load_excludes_m25p :
    (Loader.standard.load .rescue .unprotectedM25p).value.result = .ok .recoveryPerformed ∧
    eraseSends (Loader.standard.load .rescue .unprotectedM25p).events =
      [.sent [0x20, 0x00, 0x00, 0x00]] := by
  have hprobe : (Flash.probe .standard .standard .unprotectedM25p).value = .ok .m25p :=
    Run.eq_ok_of_toOption (by decide +kernel)
  have hresult : (Loader.standard.load .rescue .unprotectedM25p).value.result =
      .ok .recoveryPerformed := Run.eq_ok_of_toOption (by decide +kernel)
  have h := Loader.load_excludes (l := .standard) rfl nofun .rescue .unprotectedM25p
  exact ⟨hresult, (h.recovery .m25p hprobe rfl).2.2.2.2.2 hresult⟩

end FlashBoot
