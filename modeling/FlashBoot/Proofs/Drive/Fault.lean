import FlashBoot.Proofs.Drive.Path

/-!
# Faults end what they strike

`b.quiet` is the board `b` without its faults. An activity that ends at a fault
(`Drive.EndsAtFault`) goes on every board as it goes on the quiet one, where it reports no fault, or
a fault cuts it short (`CutShort`): up to the struck transaction the events are the same, that
transaction is the last event, and its code is what the activity reports. So what an activity does
under any faults is known from what it does without them, and what it reports tells whether there
was one (`Drive.EndsAtFault.faultless_or_struck`).
-/

namespace FlashBoot

/-! ## Quiet boards -/

namespace Board

/-- The board without its faults. -/
def quiet (b : Board) : Board := { b with faults := [] }

theorem quiet_eq {b : Board} (h : b.faults = []) : b.quiet = b := by
  cases b
  cases h
  rfl

/-- What the device answers does not depend on the faults. -/
theorem respond_faults (b : Board) (fs : List BusFault) (command : List UInt8) (count : Nat) :
    { b with faults := fs }.respond command count =
      ((b.respond command count).1, { (b.respond command count).2 with faults := fs }) := by
  unfold respond
  dsimp only
  repeat' split
  all_goals rfl

theorem transact_quiet (b : Board) (command : List UInt8) (count : Nat) :
    b.quiet.transact command count =
      (.ok (b.respond command count).1, (b.respond command count).2.quiet) := by
  simp [transact, quiet, respond_faults]

/-- A transaction goes as on the quiet board, or a fault strikes it. -/
theorem transact_cases (b : Board) (command : List UInt8) (count : Nat) :
    ((b.transact command count).1 = (b.quiet.transact command count).1 ∧
      (b.transact command count).2.quiet = (b.quiet.transact command count).2) ∨
    ∃ code, (b.transact command count).1 = .error code := by
  rw [transact_quiet]
  unfold transact
  dsimp only
  split
  case h_1 fault _ => exact .inr ⟨fault.code, rfl⟩
  case h_2 => exact .inl (by rw [respond_faults]; exact ⟨rfl, rfl⟩)

end Board

/-! ## Runs that a fault cuts short -/

/-- `es` is `full` up to one of its transactions, which a fault with this code struck. -/
def CutShort (code : UInt8) (full es : List Event) : Prop :=
  ∃ before t after, full = before ++ .transaction t :: after ∧
    es = before ++ [.transaction { t with fault := some code }]

namespace CutShort

variable {code : UInt8} {full es : List Event}

theorem append_right (h : CutShort code full es) (more : List Event) :
    CutShort code (full ++ more) es := by
  obtain ⟨before, t, after, rfl, rfl⟩ := h
  exact ⟨before, t, after ++ more, by simp, rfl⟩

theorem append_left (h : CutShort code full es) (first : List Event) :
    CutShort code (first ++ full) (first ++ es) := by
  obtain ⟨before, t, after, rfl, rfl⟩ := h
  exact ⟨first ++ before, t, after, by simp, by simp⟩

/-- A run that is cut short shows a fault. -/
theorem exists_fault (h : CutShort code full es) :
    ∃ t, .transaction t ∈ es ∧ t.fault = some code := by
  obtain ⟨before, t, after, rfl, rfl⟩ := h
  exact ⟨_, List.mem_append_right _ (List.mem_singleton_self _), rfl⟩

/-- A run of two parts is cut short in one of them. -/
theorem append_cases {first : List Event} (h : CutShort code (first ++ full) es) :
    CutShort code first es ∨ ∃ es', es = first ++ es' ∧ CutShort code full es' := by
  obtain ⟨before, t, after, hfull, rfl⟩ := h
  rcases List.append_eq_append_iff.1 hfull with ⟨mid, rfl, rfl⟩ | ⟨mid, rfl, hmid⟩
  · exact .inr ⟨mid ++ [.transaction { t with fault := some code }], by simp, mid, t, after,
      rfl, rfl⟩
  · cases mid with
    | nil => exact .inr ⟨[.transaction { t with fault := some code }], by simp, [], t, after,
        hmid.symm, rfl⟩
    | cons e mid =>
      obtain ⟨rfl, rfl⟩ := List.cons.inj hmid
      exact .inl ⟨before, t, mid, rfl, rfl⟩

end CutShort

/-- The outcome `o` is like `q`, the one without faults, or was cut short. `Reports a code` tells
that a value stands for a fault with this code. -/
inductive Outcome.Follows {α : Type} (Reports : α → UInt8 → Prop) (o q : Outcome α) : Prop
  | same : o.value = q.value → o.events = q.events → o.board.quiet = q.board → Follows Reports o q
  | cut {code : UInt8} : Reports o.value code → CutShort code q.events o.events →
      Follows Reports o q

/-- No transaction among these events was struck by a fault. -/
def Faultless (es : List Event) : Prop := ∀ t, .transaction t ∈ es → t.fault = none

theorem Faultless.append {es es' : List Event} (h : Faultless es) (h' : Faultless es') :
    Faultless (es ++ es') :=
  fun t ht => (List.mem_append.1 ht).elim (h t) (h' t)

/-- A run without faults is not what is left of it when a fault has cut it short. -/
theorem CutShort.not_isPrefix {code : UInt8} {full es : List Event} (h : CutShort code full es)
    (hfull : Faultless full) : ¬ full <+: es := by
  intro hpre
  obtain ⟨before, t, after, rfl, rfl⟩ := h
  rw [List.prefix_append_right_inj] at hpre
  have ht := (List.cons_prefix_cons.1 hpre).1
  have hnone := hfull t (by simp)
  rw [Event.transaction.inj ht] at hnone
  cases hnone

/-- On every board the activity goes as without faults, when it reports none, or the first fault
ends it. -/
structure Drive.EndsAtFault {α : Type} (Reports : α → UInt8 → Prop) (x : Drive α) : Prop where
  faultless : ∀ b : Board, Faultless (x b.quiet).events
  unreported : ∀ (b : Board) (code : UInt8), ¬ Reports (x b.quiet).value code
  follows : ∀ b : Board, (x b).Follows Reports (x b.quiet)

namespace Drive.EndsAtFault

variable {α β : Type} {Reports : α → UInt8 → Prop} {Reports' : β → UInt8 → Prop}

/-- A board that starts without faults ends without them. -/
theorem quiet_board {x : Drive α} (h : EndsAtFault Reports x) (b : Board) :
    (x b.quiet).board.quiet = (x b.quiet).board := by
  cases h.follows b.quiet with
  | same _ _ hb => exact hb
  | cut _ hc =>
    obtain ⟨t, ht, hf⟩ := hc.exists_fault
    rw [h.faultless b t ht] at hf
    cases hf

theorem pure {a : α} (h : ∀ code, ¬ Reports a code) : EndsAtFault Reports (pure a) :=
  ⟨fun _ _ ht => absurd ht List.not_mem_nil, fun _ => h, fun _ => .same rfl rfl rfl⟩

theorem log (m : Message) : EndsAtFault (fun _ _ => False) (Drive.log m) :=
  ⟨fun _ _ ht => absurd ht List.not_mem_nil, fun _ _ h => h, fun _ => .same rfl rfl rfl⟩

theorem emit {e : Event} (h : ∀ t, e ≠ .transaction t) :
    EndsAtFault (fun _ _ => False) (Drive.emit e) :=
  ⟨fun _ t ht => absurd (List.mem_singleton.1 ht).symm (h t), fun _ _ h => h,
    fun _ => .same rfl rfl rfl⟩

theorem transact (command shifted : List UInt8) :
    EndsAtFault (fun reply code => reply = .error code) (Drive.transact command shifted) := by
  have hev : ∀ b : Board, (Drive.transact command shifted b.quiet).events =
      [.transaction ⟨command, shifted, none⟩] := by
    intro b
    simp [Drive.transact, Board.transact_quiet, Outcome.events]
  refine ⟨fun b t ht => ?_, fun b code h => ?_, fun b => ?_⟩
  · rw [hev, List.mem_singleton] at ht
    cases ht
    rfl
  · simp [Drive.transact, Board.transact_quiet] at h
  · rcases b.transact_cases command shifted.length with ⟨hr, hb⟩ | ⟨code, hr⟩
    · exact .same hr (by simp [Drive.transact, Outcome.events, hr]) hb
    · refine .cut hr ⟨[], ⟨command, shifted, none⟩, [], hev b, ?_⟩
      simp [Drive.transact, Outcome.events, hr]

/-- Two activities in sequence; the second has to stop at once when the first reports a fault. -/
theorem bind {x : Drive α} {f : α → Drive β} (hx : EndsAtFault Reports x)
    (hf : ∀ b, (∀ code, ¬ Reports (x b).value code) → EndsAtFault Reports' (f (x b).value))
    (hstop : ∀ b code b', Reports (x b).value code →
      (f (x b).value b').events = [] ∧ Reports' (f (x b).value b').value code) :
    EndsAtFault Reports' (x >>= f) := by
  have hrest : ∀ b : Board, EndsAtFault Reports' (f (x b.quiet).value) :=
    fun b => hf _ (hx.unreported b)
  refine ⟨fun b => ?_, fun b => ?_, fun b => ?_⟩
  · rw [bind_apply, Outcome.events, Trace.events_append, ← hx.quiet_board b]
    exact (hx.faultless b).append ((hrest b).faultless _)
  · rw [bind_apply, ← hx.quiet_board b]
    exact (hrest b).unreported _
  · rw [bind_apply, bind_apply]
    cases hx.follows b with
    | same hv he hb =>
      have hrest := (hrest b).follows (x b).board
      rw [hb] at hrest
      rw [hv]
      cases hrest with
      | same hv' he' hb' =>
        refine .same hv' ?_ hb'
        simp only [Outcome.events, Trace.events_append] at he he' ⊢
        rw [he, he']
      | cut hr hc =>
        refine .cut hr ?_
        simp only [Outcome.events, Trace.events_append] at he hc ⊢
        rw [he]
        exact hc.append_left _
    | cut hr hc =>
      -- the second activity ends at once, so the cut is one of the whole run
      obtain ⟨hnil, hr'⟩ := hstop _ _ (x b).board hr
      refine .cut hr' ?_
      simp only [Outcome.events, Trace.events_append] at hnil hc ⊢
      rw [hnil, List.append_nil]
      exact hc.append_right _

/-- The activity goes the way it has without faults, or a fault cuts that way short. -/
theorem follows_goes {x : Drive α} (h : EndsAtFault Reports x) {b b' : Board} {a : α}
    {es : List Event} (hgoes : Goes x b.quiet a b' es) :
    Faultless es ∧ ((x b).value = a ∧ (x b).events = es ∨
      ∃ code, Reports (x b).value code ∧ CutShort code es (x b).events) := by
  obtain ⟨rfl, -, rfl⟩ := hgoes
  refine ⟨h.faultless b, ?_⟩
  cases h.follows b with
  | same hv he _ => exact .inl ⟨hv, he⟩
  | cut hr hc => exact .inr ⟨_, hr, hc⟩

/-- No fault struck and none is reported, or the one that is reported struck the last transaction
and was the first to strike. -/
theorem faultless_or_struck {x : Drive α} (h : EndsAtFault Reports x) (b : Board) :
    (Faultless (x b).events ∧ ∀ code, ¬ Reports (x b).value code) ∨
    ∃ code before t, Reports (x b).value code ∧ Faultless before ∧ t.fault = some code ∧
      (x b).events = before ++ [.transaction t] := by
  cases h.follows b with
  | same hv he _ =>
    rw [hv, he]
    exact .inl ⟨h.faultless b, h.unreported b⟩
  | cut hr hc =>
    have hfull := h.faultless b
    obtain ⟨before, t, after, hbefore, hes⟩ := hc
    rw [hbefore] at hfull
    exact .inr ⟨_, before, _, hr, fun t' ht' => hfull t' (List.mem_append_left _ ht'), rfl, hes⟩

end Drive.EndsAtFault

/-! ## Activities that may end early -/

/-- A failure on the bus reports its fault. -/
def Run.Reports {α : Type} (r : Except Failure α) (code : UInt8) : Prop :=
  r = .error (.error (.bus code))

/-- On every board the activity goes as without faults, or the first fault ends it and is its
failure. -/
def Run.EndsAtFault {α : Type} (x : Run α) : Prop := Drive.EndsAtFault Run.Reports x.run

end FlashBoot
