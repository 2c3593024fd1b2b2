import FlashBoot.Proofs.Drive.Bounds
import FlashBoot.Proofs.Trace.Order

/-!
# Kinds of events

What is looked for among the events of a run: the calls of the header parser (`headerCalls`), the
erase commands (`eraseSends`), samples of the recovery pin (`Pinless`), and the calls of the bus
controller (`OnlyCalls`). Transactions with some opcodes hold none of the others. Of the messages,
those about reads and images are told apart from the others (`Message.isOfReading`).
-/

namespace FlashBoot

/-! ## Commands -/

theorem Opcode.byte_injective {o o' : Opcode} (h : o.byte = o'.byte) : o = o' := by
  revert h
  cases o <;> cases o' <;> decide

/-- What is sent with some opcodes is not sent with another one. -/
theorem hasOpcode_eq_of_sends {os : List Opcode} {e : Event} (h : e.Sends os) {o : Opcode}
    (ho : o ∉ os) : e.hasOpcode o = false := by
  cases e with
  | transaction t =>
    obtain ⟨o', ho', ht⟩ := h
    refine decide_eq_false fun hop => ho ?_
    rw [ht] at hop
    exact Opcode.byte_injective hop ▸ ho'
  | _ => exact h.elim

theorem sendCount_eq_zero {o : Opcode} {es : List Event} (h : ∀ e ∈ es, e.hasOpcode o = false) :
    sendCount o es = 0 :=
  List.countP_eq_zero.2 fun e he => by simp [h e he]

/-- The erase commands of either family among some events. -/
def eraseSends (es : List Event) : List Event :=
  es.filter fun e => e.hasOpcode .blockErase || e.hasOpcode .pageErase

theorem eraseSends_append (es es' : List Event) :
    eraseSends (es ++ es') = eraseSends es ++ eraseSends es' :=
  List.filter_append ..

/-! ## Header calls -/

/-- The calls of the header parser among some events. -/
def headerCalls (es : List Event) : List (ImageKind × List UInt8) :=
  es.filterMap fun
    | .header kind bytes => some (kind, bytes)
    | _ => none

@[simp] theorem headerCalls_append (es es' : List Event) :
    headerCalls (es ++ es') = headerCalls es ++ headerCalls es' :=
  List.filterMap_append

theorem headerCalls_of_sends {os : List Opcode} {es : List Event} (h : ∀ e ∈ es, e.Sends os) :
    headerCalls es = [] := by
  apply List.filterMap_eq_nil_iff.2
  intro e he
  cases e with
  | header kind bytes => exact (h _ he).elim
  | _ => rfl

/-! ## Samples of the pin -/

/-- Whether the event is a sample of the recovery pin. -/
def Event.isPinRead : Event → Bool
  | .pinRead _ => true
  | _ => false

/-- No sample of the recovery pin. -/
def Pinless (es : List Event) : Prop := ∀ e ∈ es, e.isPinRead = false

theorem Pinless.countP_eq {es : List Event} (h : Pinless es) : es.countP Event.isPinRead = 0 :=
  List.countP_eq_zero.2 fun e he => by simp [h e he]

theorem Pinless.filter_eq {es : List Event} (h : Pinless es) :
    es.filter (!·.isPinRead) = es :=
  List.filter_eq_self.2 fun e he => by simp [h e he]

theorem Pinless.append {es es' : List Event} (h : Pinless es) (h' : Pinless es') :
    Pinless (es ++ es') :=
  fun e he => (List.mem_append.1 he).elim (h e) (h' e)

theorem Event.Sends.isPinRead_eq {os : List Opcode} {e : Event} (h : e.Sends os) :
    e.isPinRead = false := by
  cases e with
  | transaction t => rfl
  | _ => exact h.elim

theorem pinless_of_sends {os : List Opcode} {es : List Event} (h : ∀ e ∈ es, e.Sends os) :
    Pinless es :=
  fun e he => (h e he).isPinRead_eq

/-! ## Controller calls -/

/-- Nothing but calls of the controller. -/
def OnlyCalls (es : List Event) : Prop := ∀ e ∈ es, ∃ call, e = .controller call

namespace OnlyCalls

variable {es es' : List Event}

theorem append (h : OnlyCalls es) (h' : OnlyCalls es') : OnlyCalls (es ++ es') :=
  fun e he => (List.mem_append.1 he).elim (h e) (h' e)

theorem mem_between {opening closing : List Event} (hopening : OnlyCalls opening)
    (hclosing : OnlyCalls closing) {e : Event} (he : e ∈ opening ++ es ++ closing) :
    e ∈ es ∨ ∃ call, e = .controller call := by
  rcases List.mem_append.1 he with he | he
  · rcases List.mem_append.1 he with he | he
    · exact .inr (hopening e he)
    · exact .inl he
  · exact .inr (hclosing e he)

theorem pinless (h : OnlyCalls es) : Pinless es := by
  intro e he
  obtain ⟨call, rfl⟩ := h e he
  rfl

theorem sendCount_eq (h : OnlyCalls es) (o : Opcode) : sendCount o es = 0 := by
  refine sendCount_eq_zero fun e he => ?_
  obtain ⟨call, rfl⟩ := h e he
  rfl

theorem headerCalls_eq (h : OnlyCalls es) : headerCalls es = [] := by
  refine List.filterMap_eq_nil_iff.2 fun e he => ?_
  obtain ⟨call, rfl⟩ := h e he
  rfl

theorem eraseSends_eq (h : OnlyCalls es) : eraseSends es = [] := by
  refine List.filter_eq_nil_iff.2 fun e he => ?_
  obtain ⟨call, rfl⟩ := h e he
  simp [Event.hasOpcode]

end OnlyCalls

/-- Whether the event is a call of the controller. -/
def Event.isCall : Event → Bool
  | .controller _ => true
  | _ => false

theorem Event.Sends.isCall_eq {os : List Opcode} {e : Event} (h : e.Sends os) :
    e.isCall = false := by
  cases e with
  | transaction t => rfl
  | _ => exact h.elim

/-- No call of the controller. -/
def Callless (es : List Event) : Prop := ∀ e ∈ es, e.isCall = false

/-! ## Messages -/

/-- Whether the message is about a read or an image. -/
def Message.isOfReading : Message → Bool
  | .notAddressable _ | .chunkFailed _ | .chunkRead .. | .invalidHeader .. | .imageDoesNotFit _
  | .copying .. | .copyFailed => true
  | _ => false

end FlashBoot
