import FlashBoot.Proofs.Boot.Recovery
import Mathlib.Data.List.Forall2

/-!
# The controller brackets every attempt

An attempt on a controller that initialises is switched on before anything else happens and
switched off at its end, whatever it reports; on a controller that does not, nothing happens at all
(`Attempt.Bracketed`). What can go wrong on the bus never stops the machine, as long as no part of
the board claims more identifier bytes than it can hold (`Loader.isTrap_boot`).

`Loader.loadAll_bracketed`: over attempt after attempt, the controller is switched off as often as
on, and every transaction happens while it is on.
-/

namespace FlashBoot

/-! ## What is not the controller's -/

theorem Flash.EraseEvent.isCall_eq {i : Interface} {e : Event} (h : Flash.EraseEvent i e) :
    e.isCall = false := by
  obtain h | ⟨_, rfl⟩ := h
  · exact h.sends.isCall_eq
  · rfl

theorem Flash.LoadEvent.isCall_eq {g : Geometry} {e : Event} (h : Flash.LoadEvent g e) :
    e.isCall = false := by
  obtain h | ⟨_, _, rfl⟩ := h
  · exact h.issues.sends.isCall_eq
  · rfl

theorem BootEvent.isCall_eq {e : Event} (h : BootEvent e) : e.isCall = false := by
  cases h with
  | identify h => exact h.sends.isCall_eq
  | recover _ h =>
    obtain h | ⟨_, rfl⟩ := h
    · exact h.isCall_eq
    · rfl
  | load _ h => exact h.isCall_eq

namespace Loader

variable {l : Loader}

/-- An attempt on the bus never calls the controller. -/
theorem callless_boot (l : Loader) (a : Attempt) (b : Board) : Callless (l.boot a b).events :=
  fun e he => ((boot_within l a).events b e he).isCall_eq

end Loader

/-! ## One attempt -/

/-- What an attempt leaves on a controller that is switched: when it initialises, everything else
happens between its enable and its disable, and otherwise nothing else happens. -/
def Attempt.Bracketed (initialises : Bool) (a : Attempt) (o : Outcome Report) : Prop :=
  match initialises with
  | false => o.events = [.controller .init] ∧
      o.value = a.untouched (.error (.error (.probe .busInit)))
  | true => ∃ inner, Callless inner ∧
      o.events = .controller .init :: .controller .enable :: (inner ++ [.controller .disable])

theorem Loader.load_bracketed {l : Loader} (hcustom : ∀ p ∈ l.config.customParts, p.idLength ≤ 6)
    {initialises : Bool} (hcontroller : l.controller = .switched initialises) (a : Attempt)
    (b : Board) : a.Bracketed initialises (l.load a b) := by
  cases initialises with
  | false =>
    have hload := load_goes_of_failing hcontroller a b
    exact ⟨hload.events, hload.value⟩
  | true =>
    have hinit : l.controller ≠ .switched false := by
      rw [hcontroller]
      nofun
    have hload := (load_goes (a := a) (b := b) hinit ⟨rfl, rfl, rfl⟩).events
    rw [isTrap_boot hcustom, hcontroller] at hload
    exact ⟨(l.boot a b).events, callless_boot l a b, hload⟩

/-! ## Attempt after attempt -/

/-- Whether the controller is on after an event, given whether it was on before. -/
def Event.switch (on : Bool) : Event → Bool
  | .controller .enable => true
  | .controller .disable => false
  | _ => on

/-- Whether a controller that starts switched off is on after some events. -/
def switchedOn (es : List Event) : Bool := es.foldl Event.switch false

theorem switchedOn_concat (past : List Event) (e : Event) :
    switchedOn (past ++ [e]) = e.switch (switchedOn past) := by
  rw [switchedOn, List.foldl_append]
  rfl

/-- Transactions happen while the controller is on. -/
def PoweredRule : EventRule := fun past _ => switchedOn past = true

namespace Callless

variable {es : List Event}

theorem switchedOn_append (h : Callless es) (past : List Event) :
    switchedOn (past ++ es) = switchedOn past := by
  induction es generalizing past with
  | nil => rw [List.append_nil]
  | cons e es ih =>
    have he : switchedOn (past ++ [e]) = switchedOn past := by
      have hcall := h e List.mem_cons_self
      rw [switchedOn_concat]
      cases e with
      | controller call => cases hcall
      | _ => rfl
    have hrest := ih (fun e' he' => h e' (List.mem_cons_of_mem _ he')) (past ++ [e])
    rw [List.append_assoc, List.singleton_append] at hrest
    exact hrest.trans he

/-- What calls no controller is powered as long as the controller is on before it. -/
theorem heeds (h : Callless es) {past : List Event} (hpast : switchedOn past = true) :
    Heeds PoweredRule past es := by
  intro before t after hes
  have hbefore : Callless before := fun e he => h e (by simp [hes, he])
  exact (hbefore.switchedOn_append past).trans hpast

theorem count_eq (h : Callless es) (call : ControllerCall) : es.count (.controller call) = 0 := by
  refine List.count_eq_zero.2 fun hmem => ?_
  cases h _ hmem

end Callless

namespace Attempt.Bracketed

variable {initialises : Bool} {a : Attempt} {o : Outcome Report}

theorem count_eq (h : a.Bracketed initialises o) :
    o.events.count (.controller .enable) = o.events.count (.controller .disable) := by
  cases initialises with
  | false =>
    rw [h.1]
    rfl
  | true =>
    obtain ⟨inner, hinner, hevents⟩ := h
    simp [hevents, hinner.count_eq]

/-- An attempt that starts with the controller off keeps its transactions powered and leaves the
controller off. -/
theorem powered (h : a.Bracketed initialises o) {past : List Event}
    (hpast : switchedOn past = false) :
    Heeds PoweredRule past o.events ∧ switchedOn (past ++ o.events) = false := by
  cases initialises with
  | false =>
    rw [h.1, heeds_controller, switchedOn_concat]
    exact ⟨heeds_nil, hpast⟩
  | true =>
    obtain ⟨inner, hinner, hevents⟩ := h
    have hon : switchedOn (past ++ [.controller .init] ++ [.controller .enable]) = true := by
      rw [switchedOn_concat]
      rfl
    rw [hevents]
    refine ⟨?_, ?_⟩
    · rw [heeds_controller, heeds_controller, heeds_append, heeds_controller]
      exact ⟨hinner.heeds hon, heeds_nil⟩
    · rw [← List.cons_append, ← List.cons_append, ← List.append_assoc, switchedOn_concat]
      rfl

end Attempt.Bracketed

namespace Loader

variable {l : Loader} {initialises : Bool}

theorem loadAll_forall₂ (hcustom : ∀ p ∈ l.config.customParts, p.idLength ≤ 6)
    (hcontroller : l.controller = .switched initialises) (runs : List (Setup × Attempt))
    (b : Board) :
    List.Forall₂ (fun run o => run.2.Bracketed initialises o) runs (l.loadAll runs b) := by
  induction runs generalizing b with
  | nil => exact .nil
  | cons run runs ih => exact .cons (load_bracketed hcustom hcontroller run.2 _) (ih _)

theorem count_loadAll {runs : List (Setup × Attempt)} {outcomes : List (Outcome Report)}
    (h : List.Forall₂ (fun run o => run.2.Bracketed initialises o) runs outcomes) :
    (outcomes.flatMap Outcome.events).count (.controller .enable) =
      (outcomes.flatMap Outcome.events).count (.controller .disable) := by
  induction h with
  | nil => rfl
  | cons hrun _ ih =>
    rw [List.flatMap_cons, List.count_append, List.count_append, hrun.count_eq, ih]

theorem heeds_loadAll {runs : List (Setup × Attempt)} {outcomes : List (Outcome Report)}
    (h : List.Forall₂ (fun run o => run.2.Bracketed initialises o) runs outcomes)
    {past : List Event} (hpast : switchedOn past = false) :
    Heeds PoweredRule past (outcomes.flatMap Outcome.events) := by
  induction h generalizing past with
  | nil => exact heeds_nil
  | cons hrun _ ih =>
    obtain ⟨hfirst, hoff⟩ := hrun.powered hpast
    rw [List.flatMap_cons, heeds_append]
    exact ⟨hfirst, ih hoff⟩

/-- On a controller that is switched, every attempt is bracketed, whatever happened to the board
before it. So the controller is switched off as often as on, and everything that is sent is sent
while it is on. -/
theorem loadAll_bracketed (hcustom : ∀ p ∈ l.config.customParts, p.idLength ≤ 6)
    (hcontroller : l.controller = .switched initialises) (runs : List (Setup × Attempt))
    (b : Board) :
    List.Forall₂ (fun run o => run.2.Bracketed initialises o) runs (l.loadAll runs b) ∧
    ((l.loadAll runs b).flatMap Outcome.events).count (.controller .enable) =
      ((l.loadAll runs b).flatMap Outcome.events).count (.controller .disable) ∧
    Heeds PoweredRule [] ((l.loadAll runs b).flatMap Outcome.events) := by
  have hall := loadAll_forall₂ hcustom hcontroller runs b
  exact ⟨hall, count_loadAll hall, heeds_loadAll hall rfl⟩

end Loader

/-- A setup after which all fast reads but the first ones fail. -/
def Setup.failingReads (skipped : Nat) : Setup where
  id := none
  dataflashStatus := none
  norStatus := none
  fill := none
  seed := none
  segments := none
  fourByte := none
  faults := some [{ opcode := Opcode.fastRead.byte, skipped, count := none, code := 7, seen := 0 }]

namespace Loader

/-- A loader with the standard settings on a controller that is switched. -/
def switching : Loader := { standard with controller := .switched true }

/-- Three attempts, which fail on the header, fail on the image, and succeed. -/
theorem loadAll_bracketed_switching :
    (∀ p ∈ switching.config.customParts, p.idLength ≤ 6) ∧
    switching.controller = .switched true ∧
    ((switching.loadAll [(.failingReads 0, .kernel), (.failingReads 1, .kernel),
        (.failingReads 2, .kernel)] .m25p).flatMap Outcome.events).count
      (.controller .disable) = 3 := by
  have hcustom : ∀ p ∈ switching.config.customParts, p.idLength ≤ 6 :=
    fun _ hp => absurd hp List.not_mem_nil
  have hbracketed := loadAll_bracketed hcustom rfl [(.failingReads 0, .kernel),
    (.failingReads 1, .kernel), (.failingReads 2, .kernel)] .m25p
  exact ⟨hcustom, rfl, hbracketed.2.1.symm.trans (by decide +kernel)⟩

end Loader

end FlashBoot
