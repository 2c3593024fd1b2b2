import FlashBoot.Proofs.Drive.Fault

/-!
# Order of events

A rule looks at a transaction and at the events before it. `Heeds rule past es`: every transaction
of `es`, coming after `past`, is allowed by the rule. Lists that heed a rule are built event by
event (`heeds_cons`, `heeds_append`), and a rule that does not look at faults is still heeded when
a fault cuts the list short (`CutShort.heeds`).
-/

namespace FlashBoot

/-- Whether the event is a transaction with this opcode. -/
def Event.hasOpcode (o : Opcode) : Event → Bool
  | .transaction t => t.opcode = o.byte
  | _ => false

/-- How many transactions have this opcode. -/
def sendCount (o : Opcode) (es : List Event) : Nat := es.countP (·.hasOpcode o)

@[simp] theorem sendCount_nil (o : Opcode) : sendCount o [] = 0 := rfl

@[simp] theorem sendCount_append (o : Opcode) (es es' : List Event) :
    sendCount o (es ++ es') = sendCount o es + sendCount o es' :=
  List.countP_append

theorem sendCount_cons (o : Opcode) (e : Event) (es : List Event) :
    sendCount o (e :: es) = sendCount o es + if e.hasOpcode o then 1 else 0 :=
  List.countP_cons

/-- A rule on transactions, which sees the events before them. -/
abbrev EventRule := List Event → Transaction → Prop

/-- The transactions of `es` are allowed by the rule when `es` comes after `past`. -/
def Heeds (rule : EventRule) (past es : List Event) : Prop :=
  ∀ before t after, es = before ++ .transaction t :: after → rule (past ++ before) t

section
variable {rule : EventRule} {past es es' : List Event}

@[simp] theorem heeds_nil : Heeds rule past [] := fun before _ _ h => by
  cases before <;> cases h

theorem heeds_cons {e : Event} : Heeds rule past (e :: es) ↔
    (∀ t, e = .transaction t → rule past t) ∧ Heeds rule (past ++ [e]) es := by
  constructor
  · refine fun h => ⟨fun t ht => ?_, fun before t after he => ?_⟩
    · subst ht
      simpa using h [] t es rfl
    · subst he
      simpa using h (e :: before) t after rfl
  · rintro ⟨hhead, htail⟩ before t after he
    cases before with
    | nil =>
      obtain ⟨rfl, rfl⟩ := List.cons.inj he
      simpa using hhead t rfl
    | cons e' before =>
      obtain ⟨rfl, rfl⟩ := List.cons.inj he
      simpa using htail before t after rfl

@[simp] theorem heeds_transaction {t : Transaction} : Heeds rule past (.transaction t :: es) ↔
    rule past t ∧ Heeds rule (past ++ [.transaction t]) es := by
  simp [heeds_cons]

@[simp] theorem heeds_delay {d : UInt32} : Heeds rule past (.delay d :: es) ↔
    Heeds rule (past ++ [.delay d]) es := by
  simp [heeds_cons]

@[simp] theorem heeds_controller {call : ControllerCall} :
    Heeds rule past (.controller call :: es) ↔ Heeds rule (past ++ [.controller call]) es := by
  simp [heeds_cons]

theorem heeds_append : Heeds rule past (es ++ es') ↔
    Heeds rule past es ∧ Heeds rule (past ++ es) es' := by
  induction es generalizing past with
  | nil => simp
  | cons e es ih =>
    rw [List.cons_append, heeds_cons, heeds_cons, ih, and_assoc, List.append_assoc,
      List.singleton_append]

theorem heeds_of_forall (h : ∀ t, .transaction t ∈ es → ∀ past, rule past t) :
    Heeds rule past es :=
  fun before t after he => h t (by simp [he]) _

/-! ## Runs that a fault cuts short -/

/-- What a fault cuts short sends no command more often than the full run. -/
theorem CutShort.sendCount_le {code : UInt8} {full : List Event} (h : CutShort code full es)
    (o : Opcode) : sendCount o es ≤ sendCount o full := by
  obtain ⟨before, t, after, rfl, rfl⟩ := h
  have hop : Event.hasOpcode o (.transaction { t with fault := some code }) =
      Event.hasOpcode o (.transaction t) := rfl
  rw [sendCount_append, sendCount_append, sendCount_cons, sendCount_cons, hop, sendCount_nil]
  omega

/-- A fault that cuts a run short does not break a rule that looks at commands only. -/
theorem CutShort.heeds {code : UInt8} {full : List Event} (h : CutShort code full es)
    (hrule : ∀ past t fault, rule past t → rule past { t with fault })
    (hfull : Heeds rule past full) : Heeds rule past es := by
  obtain ⟨before, t, after, rfl, rfl⟩ := h
  rw [heeds_append, heeds_transaction] at hfull
  rw [heeds_append, heeds_transaction]
  exact ⟨hfull.1, hrule _ _ _ hfull.2.1, heeds_nil⟩

end

end FlashBoot
