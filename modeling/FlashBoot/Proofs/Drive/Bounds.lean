import FlashBoot.Drive

/-!
# What an activity may do

`Drive.Within E Q x`: on every board, everything `x` does there is an event in `E`, the value it
ends with is in `Q`, and the board keeps its device (`Board.Keeps`). `Run.Within E S F x` is the
same for an activity that may end early: `S` holds of its value and `F` of its failure.
-/

namespace FlashBoot

/-! ## The device stays -/

/-- The device of a board stays the same, and a board without faults stays without them. -/
structure Board.Keeps (b b' : Board) : Prop where
  id : b'.id = b.id
  memory : b'.memory = b.memory
  fourByte : b'.fourByte = b.fourByte
  faults : b.faults = [] → b'.faults = []

namespace Board

theorem Keeps.refl (b : Board) : b.Keeps b := ⟨rfl, rfl, rfl, fun h => h⟩

theorem Keeps.trans {a b c : Board} (h₁ : a.Keeps b) (h₂ : b.Keeps c) : a.Keeps c :=
  ⟨h₂.id.trans h₁.id, h₂.memory.trans h₁.memory, h₂.fourByte.trans h₁.fourByte,
    fun h => h₂.faults (h₁.faults h)⟩

theorem keeps_respond (b : Board) (command : List UInt8) (count : Nat) :
    b.Keeps (b.respond command count).2 := by
  unfold respond StatusScript.read
  dsimp only
  repeat' split
  all_goals exact ⟨rfl, rfl, rfl, fun h => h⟩

theorem keeps_transact (b : Board) (command : List UInt8) (count : Nat) :
    b.Keeps (b.transact command count).2 := by
  have hobs : b.Keeps { b with faults := b.faults.map (·.observe (command.headD 0)) } :=
    ⟨rfl, rfl, rfl, fun h => by simp [h]⟩
  unfold transact
  dsimp only
  split
  · exact hobs
  · exact hobs.trans (keeps_respond ..)

end Board

/-! ## Events -/

/-- A transaction with one of these opcodes. -/
def Event.Sends (opcodes : List Opcode) : Event → Prop
  | .transaction t => ∃ o ∈ opcodes, t.opcode = o.byte
  | _ => False

theorem Event.Sends.mono {os os' : List Opcode} (h : ∀ o ∈ os, o ∈ os') {e : Event}
    (he : e.Sends os) : e.Sends os' := by
  cases e with
  | transaction t =>
    obtain ⟨o, ho, ht⟩ := he
    exact ⟨o, h o ho, ht⟩
  | _ => exact he.elim

/-- Nothing but zeros is shifted out while a response is captured. -/
def Event.ShiftsZeros : Event → Prop
  | .transaction t => ∀ byte ∈ t.shifted, byte = 0
  | _ => True

/-- A transaction with one of these opcodes, which shifts out zeros behind its command. -/
structure Event.Issues (opcodes : List Opcode) (e : Event) : Prop where
  sends : e.Sends opcodes
  zeros : e.ShiftsZeros

theorem Event.issues_of_mem {opcodes : List Opcode} {o : Opcode} (ho : o ∈ opcodes)
    {command shifted : List UInt8} (hc : command.headD 0 = o.byte)
    (hs : ∀ byte ∈ shifted, byte = 0) (fault : Option UInt8) :
    (Event.transaction ⟨command, shifted, fault⟩).Issues opcodes :=
  ⟨⟨o, ho, hc⟩, hs⟩

/-! ## Activities -/

/-- What `x` does on any board lies in `E`, its value in `Q`, and the device stays. -/
structure Drive.Within {α : Type} (E : Event → Prop) (Q : α → Prop) (x : Drive α) : Prop where
  events : ∀ b, ∀ e ∈ (x b).events, E e
  value : ∀ b, Q (x b).value
  board : ∀ b : Board, b.Keeps (x b).board

theorem Drive.Within.mono {α : Type} {E E' : Event → Prop} {Q Q' : α → Prop} {x : Drive α}
    (h : Within E Q x) (he : ∀ e, E e → E' e) (hq : ∀ a, Q a → Q' a) : Within E' Q' x :=
  ⟨fun b e hm => he e (h.events b e hm), fun b => hq _ (h.value b), h.board⟩

/-! ## Activities that may end early -/

/-- `S` holds of a value and `F` of a failure. -/
def Run.Ends {α : Type} (S : α → Prop) (F : Failure → Prop) : Except Failure α → Prop
  | .ok a => S a
  | .error f => F f

/-- A result is known from its value, which can be compared. -/
theorem Run.eq_ok_of_toOption {α : Type} {r : Except Failure α} {a : α}
    (h : r.toOption = some a) : r = .ok a := by
  cases r with
  | ok a' =>
    obtain rfl := Option.some.inj h
    rfl
  | error f => cases h

/-- What `x` does on any board lies in `E`, its value in `S` and its failure in `F`. -/
def Run.Within {α : Type} (E : Event → Prop) (S : α → Prop) (F : Failure → Prop) (x : Run α) :
    Prop :=
  Drive.Within E (Run.Ends S F) x.run

namespace Run.Within

variable {α : Type} {E : Event → Prop} {S : α → Prop} {F : Failure → Prop}

theorem value_of_ok {x : Run α} (h : Within E S F x) {b : Board} {a : α}
    (hv : (x b).value = .ok a) : S a := by
  have := Drive.Within.value h b
  rwa [ExceptT.run, hv] at this

theorem failure_of_error {x : Run α} (h : Within E S F x) {b : Board} {f : Failure}
    (hv : (x b).value = .error f) : F f := by
  have := Drive.Within.value h b
  rwa [ExceptT.run, hv] at this

theorem mono {E' : Event → Prop} {S' : α → Prop} {F' : Failure → Prop} {x : Run α}
    (h : Within E S F x) (he : ∀ e, E e → E' e) (hs : ∀ a, S a → S' a) (hf : ∀ f, F f → F' f) :
    Within E' S' F' x := by
  refine Drive.Within.mono h he fun r hr => ?_
  cases r with
  | ok a => exact hs a hr
  | error f => exact hf f hr

end Run.Within

end FlashBoot
