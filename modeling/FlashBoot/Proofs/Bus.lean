import FlashBoot.Bus
import FlashBoot.Proofs.Drive.Confined
import FlashBoot.Proofs.Drive.Path

/-!
# The command channel on a board

A transfer into a buffer is one transaction and its reply (`Bus.read_eq`). A command or a register
is one transaction and what is made of its response (`Bus.ask`). So each function of the channel
goes through that transaction and fails by the bus only (`_confined`, `read_inStep`), and has one
path on a quiet board (`_goes`).
-/

namespace FlashBoot

/-- A transaction without a response that went well. -/
def Event.sent (command : List UInt8) : Event := .transaction ⟨command, [], none⟩

/-- A register read that went well. -/
def Event.asked (opcode : Opcode) : Event := .transaction ⟨[opcode.byte], [0], none⟩

/-- A transaction whose response of `count` bytes arrived. -/
def Event.fetched (command : List UInt8) (count : Nat) : Event :=
  .transaction ⟨command, List.replicate count 0, none⟩

/-- A transaction with a response of `count` bytes that a fault with this code ended. -/
def Event.struck (command : List UInt8) (count : Nat) (code : UInt8) : Event :=
  .transaction ⟨command, List.replicate count 0, some code⟩

/-- The transfer that a transaction's reply makes of a buffer of `count` bytes. -/
def Transfer.ofReply (count : Nat) : Except UInt8 (List UInt8) → Transfer
  | .ok response => ⟨.ok (), response⟩
  | .error code => ⟨.error (.error (.bus code)), List.replicate count 0⟩

/-- The transfer failed in this way. -/
def Transfer.Fails (t : Transfer) (e : Failure) : Prop := t.result = .error e

namespace Bus

variable {s : Drive.Scope}

/-! ## Questions -/

/-- A transaction, and what is made of its response. -/
def ask {α : Type} (command shifted : List UInt8) (g : List UInt8 → α) : Run α := do
  match ← Drive.transact command shifted with
  | .ok response => return g response
  | .error code => Run.fail (.bus code)

section
variable {α : Type} {command shifted : List UInt8} {b b' : Board}

theorem ask_of_ok {response : List UInt8}
    (h : b.transact command shifted.length = (.ok response, b')) (g : List UInt8 → α) :
    ask command shifted g b =
      ⟨.ok (g response), b', [.event (.transaction ⟨command, shifted, none⟩)]⟩ := by
  rw [ask, Run.lift_bind_apply]
  simp [Drive.transact, h]

theorem ask_of_error {code : UInt8}
    (h : b.transact command shifted.length = (.error code, b')) (g : List UInt8 → α) :
    ask command shifted g b =
      ⟨.error (.error (.bus code)), b', [.event (.transaction ⟨command, shifted, some code⟩)]⟩ := by
  rw [ask, Run.lift_bind_apply]
  simp [Drive.transact, h]

theorem ask_confined (hs : ∀ fault, s.does (.transaction ⟨command, shifted, fault⟩))
    (g : List UInt8 → α) : Run.Confined s (fun _ => True) (ask command shifted g) := by
  have hsent : Drive.InStep s Drive.ReplyFails (fun r r' t => r = r' ∧ t.alarms = [])
      (Drive.transact command shifted) (Drive.transact command shifted) :=
    .transact hs (fun _ _ => ⟨rfl, rfl⟩) fun _ => ⟨rfl, rfl⟩
  rw [Run.Confined, ExceptT.run, ask, Run.lift_bind_eq]
  apply hsent.bind
  · intro r r' t hr hnot
    obtain ⟨rfl, hnone⟩ := hr
    cases r with
    | ok response =>
      exact Drive.InStep.mono (Run.Confined.pure trivial) fun _ _ _ h => h.prepend hnone
    | error code => exact absurd ⟨code, rfl, rfl⟩ (hnot _)
  · intro r r' t e hr he
    obtain ⟨rfl, hnone⟩ := hr
    obtain ⟨code, rfl, rfl⟩ := he
    exact .pure (fun _ he => (Except.error.inj he).symm)
      ⟨rfl, .prepend (.error (absurd rfl)) hnone⟩

end

/-! ## Commands -/

theorem write_eq {command : List UInt8} (h : command ≠ []) :
    write command = ask command [] fun _ => () := by
  have hne : ¬ command.isEmpty = true := by simpa using h
  unfold write
  exact if_neg hne

theorem write_confined {command : List UInt8} (h : command ≠ [])
    (hs : ∀ fault, s.does (.transaction ⟨command, [], fault⟩)) :
    Run.Confined s (fun _ => True) (write command) := by
  rw [write_eq h]
  exact ask_confined hs _

theorem write_goes {command : List UInt8} (h : command ≠ []) (b : Board) :
    Run.Goes (write command) b.quiet (.ok ()) (b.respond command 0).2.quiet [.sent command] := by
  rw [write_eq h]
  exact .of_apply (ask_of_ok (Board.transact_quiet ..) _)

/-! ## Transfers -/

/-- A transfer that fills a buffer is one transaction. -/
theorem read_eq {command buffer : List UInt8} (hc : command ≠ []) (hb : buffer ≠ []) :
    read command buffer =
      Transfer.ofReply buffer.length <$>
        Drive.transact command (List.replicate buffer.length 0) := by
  have hlen : buffer.length ≠ 0 := by simpa using hb
  funext b
  simp only [read, exchange, hc, hlen, List.isEmpty_iff, ↓reduceIte, Option.getD_some,
    Nat.lt_irrefl, List.drop_length, List.append_nil, Drive.bind_apply, Drive.map_apply]
  cases (Drive.transact command (List.replicate buffer.length 0) b).value <;>
    simp [Transfer.ofReply]

/-- Transfers into buffers of one length. -/
theorem read_inStep {command buffer buffer' : List UInt8} (hc : command ≠ []) (hb : buffer ≠ [])
    (hlen : buffer.length = buffer'.length) {R : Transfer → Transfer → Trace → Prop}
    (hs : ∀ fault, s.does (.transaction ⟨command, List.replicate buffer.length 0, fault⟩))
    (hok : ∀ response, response.length = buffer.length → R ⟨.ok (), response⟩ ⟨.ok (), response⟩
      [.event (.fetched command buffer.length)])
    (herror : ∀ code,
      R (.ofReply buffer.length (.error code)) (.ofReply buffer.length (.error code))
        [.event (.struck command buffer.length code)]) :
    Drive.InStep s Transfer.Fails R (read command buffer) (read command buffer') := by
  have hb' : buffer' ≠ [] := by
    rwa [← List.length_pos_iff, ← hlen, List.length_pos_iff]
  rw [read_eq hc hb, read_eq hc hb', ← hlen]
  refine .map (.transact hs (fun response hr => hok response ?_) herror) (fun reply e => ?_) ?_
  · rwa [List.length_replicate] at hr
  · cases reply with
    | ok response => exact ⟨nofun, nofun⟩
    | error code =>
      refine ⟨fun he => ⟨code, rfl, (Except.error.inj he).symm⟩, ?_⟩
      rintro ⟨_, ⟨⟩, rfl⟩
      rfl
  · rintro _ _ _ ⟨code, rfl, rfl⟩ ⟨_, ⟨⟩, rfl⟩
    rfl

theorem read_goes {command buffer : List UInt8} (hc : command ≠ []) (hb : buffer ≠ [])
    (b : Board) : Drive.Goes (read command buffer) b.quiet
      ⟨.ok (), (b.respond command buffer.length).1⟩ (b.respond command buffer.length).2.quiet
      [.fetched command buffer.length] := by
  rw [read_eq hc hb]
  refine ⟨?_, ?_, ?_⟩ <;>
    simp [Drive.transact, Board.transact_quiet, Transfer.ofReply, Outcome.events, Event.fetched]

/-- What is made of a transfer is made of the response of its transaction. -/
theorem read_bind_eq_ask {α : Type} {command buffer : List UInt8} (hc : command ≠ [])
    (hb : buffer ≠ []) (g : List UInt8 → α) :
    (do
      let transfer ← (liftM (read command buffer) : Run Transfer)
      Run.ofExcept transfer.result
      return g transfer.buffer) = ask command (List.replicate buffer.length 0) g := by
  rw [read_eq hc hb]
  funext b
  rw [Run.lift_bind_apply, ask, Run.lift_bind_apply, Drive.map_apply]
  cases (Drive.transact command (List.replicate buffer.length 0) b).value <;> rfl

/-! ## Registers -/

theorem readRegister_eq (opcode : Opcode) :
    readRegister opcode = ask [opcode.byte] [0] fun bytes => bytes.headD 0 :=
  read_bind_eq_ask (List.cons_ne_nil opcode.byte []) (List.cons_ne_nil 0 [])
    fun bytes => bytes.headD 0

theorem readId_eq : readId = ask [Opcode.readId.byte] (List.replicate 5 0) JedecId.ofBytes :=
  read_bind_eq_ask (List.cons_ne_nil Opcode.readId.byte []) (List.cons_ne_nil 0 _)
    JedecId.ofBytes

theorem readRegister_confined {opcode : Opcode}
    (hs : ∀ fault, s.does (.transaction ⟨[opcode.byte], [0], fault⟩)) :
    Run.Confined s (fun _ => True) (readRegister opcode) := by
  rw [readRegister_eq]
  exact ask_confined hs _

theorem readId_confined
    (hs : ∀ fault, s.does (.transaction ⟨[Opcode.readId.byte], List.replicate 5 0, fault⟩)) :
    Run.Confined s (fun _ => True) readId := by
  rw [readId_eq]
  exact ask_confined hs _

section
variable {opcode : Opcode} {b b' : Board}

theorem readRegister_goes_of_ok {response : List UInt8}
    (h : b.transact [opcode.byte] 1 = (.ok response, b')) :
    Run.Goes (readRegister opcode) b (.ok (response.headD 0)) b' [.asked opcode] := by
  rw [readRegister_eq]
  exact .of_apply (ask_of_ok h _)

theorem readRegister_goes_of_error {code : UInt8}
    (h : b.transact [opcode.byte] 1 = (.error code, b')) :
    Run.Goes (readRegister opcode) b (.error (.error (.bus code))) b'
      [.struck [opcode.byte] 1 code] := by
  rw [readRegister_eq]
  exact .of_apply (ask_of_error h _)

theorem readId_goes_of_ok {response : List UInt8}
    (h : b.transact [Opcode.readId.byte] 5 = (.ok response, b')) :
    Run.Goes readId b (.ok (.ofBytes response)) b' [.fetched [Opcode.readId.byte] 5] := by
  rw [readId_eq]
  exact .of_apply (ask_of_ok h _)

theorem readId_goes_of_error {code : UInt8}
    (h : b.transact [Opcode.readId.byte] 5 = (.error code, b')) :
    Run.Goes readId b (.error (.error (.bus code))) b' [.struck [Opcode.readId.byte] 5 code] := by
  rw [readId_eq]
  exact .of_apply (ask_of_error h _)

end

theorem readRegister_goes (opcode : Opcode) (b : Board) :
    Run.Goes (readRegister opcode) b.quiet (.ok ((b.respond [opcode.byte] 1).1.headD 0))
      (b.respond [opcode.byte] 1).2.quiet [.asked opcode] :=
  readRegister_goes_of_ok (Board.transact_quiet ..)

/-- A device answers its identifier, and zeros behind it. -/
theorem respond_readId (b : Board) :
    b.respond [Opcode.readId.byte] 5 = ((List.range 5).map (b.id.getD · 0), b) ∧
      JedecId.ofBytes ((List.range 5).map (b.id.getD · 0)) = .ofBytes b.id := by
  refine ⟨by simp [Board.respond, Opcode.byte], ?_⟩
  unfold JedecId.ofBytes
  congr 2
  funext i
  simp

theorem readId_goes (b : Board) :
    Run.Goes readId b.quiet (.ok (.ofBytes b.id)) b.quiet
      [.fetched [Opcode.readId.byte] 5] := by
  obtain ⟨hr, hid⟩ := respond_readId b
  have h := readId_goes_of_ok (Board.transact_quiet b [Opcode.readId.byte] 5)
  rwa [hr, hid] at h

/-- An identifier that arrives is that of the device. -/
theorem readId_of_ok {b : Board} {id : JedecId} (h : (readId b).value = .ok id) :
    id = .ofBytes b.id := by
  have hends : Run.EndsAtFault readId :=
    (readId_confined (s := .unbounded) fun _ => trivial).endsAtFault Drive.Scope.not_fails_unbounded
  obtain ⟨-, ⟨hv, -⟩ | ⟨code, hr, -⟩⟩ := Drive.EndsAtFault.follows_goes hends (readId_goes b)
  · exact Except.ok.inj (h.symm.trans hv)
  · cases h.symm.trans hr

end Bus

end FlashBoot
