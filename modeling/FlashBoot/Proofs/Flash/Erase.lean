import FlashBoot.Proofs.Flash.Recovery

/-!
# The paths of an erase

What `Flash.erasePage0` does on a quiet board is known from the status bytes it is going to read:
`ErasePath` lists the ways it can go. A SPI NOR device is unlocked first (`unlockEvents`), which it
may refuse; both families are then erased, and polled until the first status that tells the end
(`PollEnds`). On any other board an erase follows such a path until a fault strikes
(`erasePage0_follows`).
-/

namespace FlashBoot

/-! ## Status bytes to come -/

namespace Board

/-- What the SPI NOR status register answers to the `k`-th read from now on. -/
def nor (b : Board) (k : Nat) : NorStatus := .ofByte (b.norStatus.answer (b.norStatus.used + k))

/-- What the DataFlash status register answers to the `k`-th read from now on. -/
def dataflash (b : Board) (k : Nat) : DataflashStatus :=
  .ofByte (b.dataflashStatus.answer (b.dataflashStatus.used + k))

/-- The board after `n` reads of the status register of a family. -/
def skip (b : Board) : Interface → Nat → Board
  | .nor, n => { b with norStatus := { b.norStatus with used := b.norStatus.used + n } }
  | .dataflash, n =>
    { b with dataflashStatus := { b.dataflashStatus with used := b.dataflashStatus.used + n } }

/-- Whether the `k`-th status read from now on tells that an erase has finished. -/
def finished (b : Board) : Interface → Nat → Bool
  | .nor, k => !(b.nor k).busy
  | .dataflash, k => (b.dataflash k).ready

@[simp] theorem skip_skip (b : Board) (i : Interface) (m n : Nat) :
    (b.skip i m).skip i n = b.skip i (m + n) := by
  cases i <;> simp [skip, Nat.add_assoc]

@[simp] theorem skip_zero (b : Board) (i : Interface) : b.skip i 0 = b := by
  cases i <;> rfl

@[simp] theorem nor_skip (b : Board) (m k : Nat) : (b.skip .nor m).nor k = b.nor (m + k) := by
  simp [nor, skip, Nat.add_assoc]

@[simp] theorem finished_skip (b : Board) (i : Interface) (m k : Nat) :
    (b.skip i m).finished i k = b.finished i (m + k) := by
  cases i <;> simp [finished, nor, dataflash, skip, Nat.add_assoc]

end Board

/-- The opcode that reads the status register of a family. -/
def Interface.statusOpcode : Interface → Opcode
  | .nor => .norStatus
  | .dataflash => .dataflashStatus

namespace Flash

theorem norStatus_goes (b : Board) :
    Run.Goes norStatus b.quiet (.ok (b.nor 0)) (b.skip .nor 1).quiet [.asked .norStatus] := by
  have hr : b.respond [Opcode.norStatus.byte] 1 =
      ([b.norStatus.answer b.norStatus.used], b.skip .nor 1) := by
    simp [Board.respond, Opcode.byte, StatusScript.read, Board.skip]
  have h := Bus.readRegister_goes .norStatus b
  rw [hr] at h
  exact .bind h (.pure _ _)

/-- The DataFlash status register answers the next byte of its script. -/
theorem readDataflash_goes (b : Board) :
    Run.Goes (Bus.readRegister .dataflashStatus) b.quiet
      (.ok (b.dataflashStatus.answer b.dataflashStatus.used)) (b.skip .dataflash 1).quiet
      [.asked .dataflashStatus] := by
  have hr : b.respond [Opcode.dataflashStatus.byte] 1 =
      ([b.dataflashStatus.answer b.dataflashStatus.used], b.skip .dataflash 1) := by
    simp [Board.respond, Opcode.byte, StatusScript.read, Board.skip]
  have h := Bus.readRegister_goes .dataflashStatus b
  rwa [hr] at h

theorem dataflashStatus_goes (b : Board) :
    Run.Goes dataflashStatus b.quiet (.ok (b.dataflash 0)) (b.skip .dataflash 1).quiet
      [.asked .dataflashStatus] :=
  .bind (readDataflash_goes b) (.pure _ _)

theorem eraseDone_goes (i : Interface) (b : Board) :
    Run.Goes (eraseDone i) b.quiet (.ok (b.finished i 0)) (b.skip i 1).quiet
      [.asked i.statusOpcode] := by
  cases i with
  | nor => exact .bind (norStatus_goes b) (.pure _ _)
  | dataflash => exact .bind (dataflashStatus_goes b) (.pure _ _)

end Flash

/-! ## Polling -/

/-- A poll of at most `n` questions, the `i`-th of which is answered `answer i`, asks `m` of them
and ends with `p`. -/
inductive PollEnds (answer : Nat → Bool) (n : Nat) : Nat → Poll → Prop
  /-- The `j`-th answer is the first yes. -/
  | ready {j : Nat} : j < n → answer j = true → (∀ i < j, answer i = false) →
      PollEnds answer n (j + 1) .ready
  | exhausted : (∀ i < n, answer i = false) → PollEnds answer n n .exhausted

namespace PollEnds

variable {answer : Nat → Bool} {n m : Nat} {p : Poll}

theorem le (h : PollEnds answer n m p) : m ≤ n := by
  cases h with
  | ready hj _ _ => exact hj
  | exhausted _ => exact Nat.le_refl _

/-- A first question that is answered no. -/
theorem cons (h : PollEnds (fun i => answer (i + 1)) n m p) (hno : answer 0 = false) :
    PollEnds answer (n + 1) (m + 1) p := by
  have hbefore : ∀ k, (∀ i < k, answer (i + 1) = false) → ∀ i < k + 1, answer i = false := by
    intro k hk i hi
    cases i with
    | zero => exact hno
    | succ i => exact hk i (by omega)
  cases h with
  | ready hj hyes hfirst => exact .ready (by omega) hyes (hbefore _ hfirst)
  | exhausted hnone => exact .exhausted (hbefore _ hnone)

end PollEnds

section
variable {ready : Run Bool} {boards : Nat → Board} {answer : Nat → Bool} {e : Event}
  (hready : ∀ k, Run.Goes ready (boards k) (.ok (answer k)) (boards (k + 1)) [e])
include hready

/-- A poll asks until the first yes, or as often as it may. -/
theorem pollTimes_goes (n k : Nat) : ∃ m p, PollEnds (fun i => answer (k + i)) n m p ∧
    Run.Goes (pollTimes ready n) (boards k) (.ok p) (boards (k + m)) (List.replicate m e) := by
  induction n generalizing k with
  | zero => exact ⟨0, .exhausted, .exhausted nofun, .pure _ _⟩
  | succ n ih =>
    have hask := hready k
    cases ha : answer k with
    | true =>
      rw [ha] at hask
      exact ⟨1, .ready, .ready (Nat.succ_pos n) ha nofun, .bind hask (.pure _ _)⟩
    | false =>
      rw [ha] at hask
      obtain ⟨m, p, hends, hp⟩ := ih (k + 1)
      simp only [Nat.add_assoc, Nat.add_comm 1] at hends hp
      exact ⟨m + 1, p, hends.cons ha, .bind hask hp⟩

end

/-- What an erase comes to when polling has ended. -/
def Poll.result : Poll → Except Failure Unit
  | .ready => .ok ()
  | .exhausted => .error (.error .timeout)

theorem Poll.result_cases (p : Poll) :
    p.result = .ok () ∨ p.result = .error (.error .timeout) := by
  cases p with
  | ready => exact .inl rfl
  | exhausted => exact .inr rfl

namespace Flash

/-- Whether a status still shows the lock or a protection bit. -/
def stillProtected (s : NorStatus) : Bool := s.locked || s.isProtected

/-! ## Unlocking -/

/-- The events that clear the protection bits once. -/
def clearingEvents : List Event := [.sent [0x06], .sent [0x01, 0x00]]

/-- The events of unlocking a device whose status is `s`. -/
def unlockEvents (s : NorStatus) : List Event :=
  .asked .norStatus :: if s.isProtected then
    (if s.locked then clearingEvents else []) ++ clearingEvents ++ [.asked .norStatus]
  else []

/-- A command that is no read leaves the device as it is. -/
theorem write_goes_self {command : List UInt8} (h : command ≠ []) {b : Board}
    (hr : (b.respond command 0).2 = b) :
    Run.Goes (Bus.write command) b.quiet (.ok ()) b.quiet [.sent command] := by
  have hw := Bus.write_goes h b
  rwa [hr] at hw

theorem writeEnable_goes (b : Board) :
    Run.Goes writeEnable b.quiet (.ok ()) b.quiet [.sent [0x06]] :=
  write_goes_self (by simp) (by simp [Board.respond, Opcode.byte])

theorem writeStatus_goes (b : Board) :
    Run.Goes (writeStatus 0) b.quiet (.ok ()) b.quiet [.sent [0x01, 0x00]] :=
  write_goes_self (by simp) (by simp [Board.respond, Opcode.byte])

theorem clearProtection_goes (b : Board) :
    Run.Goes clearProtection b.quiet (.ok ()) b.quiet clearingEvents :=
  .bind (writeEnable_goes b) (writeStatus_goes b)

theorem confirmUnprotected_goes (b : Board) :
    Run.Goes confirmUnprotected b.quiet
      (if stillProtected (b.nor 0) then .error (.error .protect) else .ok ())
      (b.skip .nor 1).quiet [.asked .norStatus] := by
  refine .bind (norStatus_goes b) ?_
  change Run.Goes (if stillProtected (b.nor 0) then _ else _) _ _ _ _
  cases stillProtected (b.nor 0) with
  | true => exact .log_bind (.fail _ _)
  | false => exact .pure _ _

/-- Unlocking reads the status once, and again after the bits were cleared. -/
theorem unprotect_goes (b : Board) :
    Run.Goes unprotect b.quiet
      (if (b.nor 0).isProtected && stillProtected (b.nor 1) then .error (.error .protect)
        else .ok ())
      (b.skip .nor (if (b.nor 0).isProtected then 2 else 1)).quiet (unlockEvents (b.nor 0)) := by
  have hconfirm := confirmUnprotected_goes (b.skip .nor 1)
  rw [Board.nor_skip, Board.skip_skip] at hconfirm
  have hlast : Run.Goes (clearProtection >>= fun _ => confirmUnprotected) _ _ _ _ :=
    .bind (clearProtection_goes (b.skip .nor 1)) hconfirm
  have hfirst : Run.Goes (clearProtection >>= fun _ => clearProtection >>= fun _ =>
      confirmUnprotected) _ _ _ _ :=
    .bind (clearProtection_goes (b.skip .nor 1)) hlast
  unfold unprotect unlockEvents
  cases hp : (b.nor 0).isProtected with
  | false => exact .bind (norStatus_goes b) (by rw [hp]; exact .pure _ _)
  | true =>
    simp only [↓reduceIte, Bool.true_and]
    cases hl : (b.nor 0).locked with
    | false =>
      simp only [Bool.false_eq_true, ↓reduceIte, List.nil_append]
      exact .bind (norStatus_goes b) (by simpa [hp, hl, clearingEvents] using hlast)
    | true =>
      simp only [↓reduceIte, List.append_assoc]
      exact .bind (norStatus_goes b) (by simpa [hp, hl, clearingEvents] using hfirst)

/-! ## Erasing -/

/-- The events of erasing and polling a device of a family that is ready for it, with `n` polls. -/
def eraseEvents (i : Interface) (config : Config) (n : Nat) : List Event :=
  .sent (eraseCommand i) :: .delay config.settleDelay :: List.replicate n (.asked i.statusOpcode)

/-- After the delay the status is read until it tells that the erase has finished, at most as often
as configured and at least once. -/
theorem awaitErase_goes (i : Interface) (config : Config) (b : Board) :
    ∃ n p, PollEnds (b.finished i) (max config.pollRetries.toNat 1) n p ∧
      Run.Goes (awaitErase i config) b.quiet p.result (b.skip i n).quiet
        (.delay config.settleDelay :: List.replicate n (.asked i.statusOpcode)) := by
  have hready : ∀ k, Run.Goes (eraseDone i) (b.skip i k).quiet (.ok (b.finished i k))
      (b.skip i (k + 1)).quiet [.asked i.statusOpcode] := by
    intro k
    have h := eraseDone_goes i (b.skip i k)
    rwa [Board.finished_skip, Board.skip_skip] at h
  obtain ⟨n, p, hends, hp⟩ := pollTimes_goes hready (max config.pollRetries.toNat 1) 0
  simp only [Nat.zero_add, Board.skip_zero] at hends hp
  refine ⟨n, p, hends, .emit_bind (.bind_silent hp ?_)⟩
  cases p with
  | ready => exact .pure () _
  | exhausted => exact .log_bind (.fail _ _)

/-- The ways an erase can go on a board without faults: its result and its events. -/
inductive ErasePath (config : Config) (b : Board) :
    Interface → Except Failure Unit → List Event → Prop
  /-- A SPI NOR device stays protected. -/
  | refused : (b.nor 0).isProtected → stillProtected (b.nor 1) →
      ErasePath config b .nor (.error (.error .protect)) (unlockEvents (b.nor 0))
  /-- A SPI NOR device is unlocked, erased, and polled `n` times. -/
  | nor {n : Nat} {r : Except Failure Unit} :
      ((b.nor 0).isProtected → stillProtected (b.nor 1) = false) →
      n ≤ max config.pollRetries.toNat 1 → r = .ok () ∨ r = .error (.error .timeout) →
      ErasePath config b .nor r
        (unlockEvents (b.nor 0) ++ .sent [0x06] :: eraseEvents .nor config n)
  /-- A DataFlash is erased and polled `n` times. -/
  | dataflash {n : Nat} {r : Except Failure Unit} :
      n ≤ max config.pollRetries.toNat 1 → r = .ok () ∨ r = .error (.error .timeout) →
      ErasePath config b .dataflash r (eraseEvents .dataflash config n)

/-- The erase command of a family and the polling after it. -/
theorem erase_goes (i : Interface) (config : Config) (b : Board) :
    ∃ n p, PollEnds (b.finished i) (max config.pollRetries.toNat 1) n p ∧
      ∃ b', Run.Goes (do
        Run.logError (Bus.write (eraseCommand i)) (.eraseFailed i)
        awaitErase i config) b.quiet p.result b' (eraseEvents i config n) := by
  have hw : Run.Goes (Bus.write (eraseCommand i)) b.quiet (.ok ()) b.quiet
      [.sent (eraseCommand i)] := by
    cases i <;> exact write_goes_self (by simp [eraseCommand, Address.eraseCommand])
      (by simp [eraseCommand, Address.eraseCommand, Board.respond, Opcode.byte])
  obtain ⟨n, p, hends, hp⟩ := awaitErase_goes i config b
  exact ⟨n, p, hends, _, .bind (hw.logError _) hp⟩

theorem erasePage0_goes_dataflash {f : Flash} (hi : f.descriptor.interface = .dataflash)
    (config : Config) (b : Board) :
    ∃ n p, PollEnds (b.finished .dataflash) (max config.pollRetries.toNat 1) n p ∧
      ∃ b', Run.Goes (f.erasePage0 config) b.quiet p.result b'
        (eraseEvents .dataflash config n) := by
  unfold erasePage0
  rw [hi]
  obtain ⟨n, p, hends, b', hp⟩ := erase_goes .dataflash config b
  exact ⟨n, p, hends, b', .bind (.pure () _) hp⟩

/-- A SPI NOR device that stays protected is not erased. -/
theorem erasePage0_goes_refused {f : Flash} (hi : f.descriptor.interface = .nor)
    (config : Config) {b : Board} (hp : (b.nor 0).isProtected = true)
    (hs : stillProtected (b.nor 1) = true) :
    ∃ b', Run.Goes (f.erasePage0 config) b.quiet (.error (.error .protect)) b'
      (unlockEvents (b.nor 0)) := by
  have hunlock := unprotect_goes b
  rw [hp, hs] at hunlock
  unfold erasePage0
  rw [hi]
  exact ⟨_, .bind_error (.bind_error hunlock)⟩

/-- Any other SPI NOR device is unlocked and erased, and polled from its next status on. -/
theorem erasePage0_goes_nor {f : Flash} (hi : f.descriptor.interface = .nor)
    (config : Config) {b : Board}
    (h : (b.nor 0).isProtected = true → stillProtected (b.nor 1) = false) :
    ∃ n p, PollEnds
        (fun j => b.finished .nor ((if (b.nor 0).isProtected = true then 2 else 1) + j))
        (max config.pollRetries.toNat 1) n p ∧
      ∃ b', Run.Goes (f.erasePage0 config) b.quiet p.result b'
        (unlockEvents (b.nor 0) ++ .sent [0x06] :: eraseEvents .nor config n) := by
  have hopen : ((b.nor 0).isProtected && stillProtected (b.nor 1)) = false := by
    cases hp : (b.nor 0).isProtected with
    | true => simpa using h hp
    | false => rfl
  have hunlock := unprotect_goes b
  rw [hopen] at hunlock
  have hprepare : Run.Goes (prepareErase .nor) _ _ _ _ := .bind hunlock (writeEnable_goes _)
  obtain ⟨n, p, hends, b', hp⟩ := erase_goes .nor config
    (b.skip .nor (if (b.nor 0).isProtected then 2 else 1))
  have hpolled := funext (b.finished_skip .nor (if (b.nor 0).isProtected then 2 else 1))
  refine ⟨n, p, hpolled ▸ hends, b', ?_⟩
  unfold erasePage0
  rw [hi, List.append_cons]
  exact .bind hprepare hp

theorem erasePage0_path (f : Flash) (config : Config) (b : Board) :
    ∃ r b' es, ErasePath config b f.descriptor.interface r es ∧
      Run.Goes (f.erasePage0 config) b.quiet r b' es := by
  cases hi : f.descriptor.interface with
  | dataflash =>
    obtain ⟨n, p, hends, b', hp⟩ := erasePage0_goes_dataflash hi config b
    exact ⟨_, b', _, .dataflash hends.le p.result_cases, hp⟩
  | nor =>
    by_cases hs : (b.nor 0).isProtected = true ∧ stillProtected (b.nor 1) = true
    · obtain ⟨b', hp⟩ := erasePage0_goes_refused hi config hs.1 hs.2
      exact ⟨_, b', _, .refused hs.1 hs.2, hp⟩
    · have hopen : (b.nor 0).isProtected = true → stillProtected (b.nor 1) = false :=
        fun hp => by simpa [hp] using hs
      obtain ⟨n, p, hends, b', hp⟩ := erasePage0_goes_nor hi config hopen
      exact ⟨_, b', _, .nor hopen hends.le p.result_cases, hp⟩

/-! ## Erasing under faults -/

/-- An erase goes one of its ways, or a fault cuts one of them short. -/
theorem erasePage0_follows (f : Flash) (config : Config) (b : Board) :
    ∃ r es, ErasePath config b f.descriptor.interface r es ∧ Faultless es ∧
      ((f.erasePage0 config b).value = r ∧ (f.erasePage0 config b).events = es ∨
        ∃ code, (f.erasePage0 config b).value = .error (.error (.bus code)) ∧
          CutShort code es (f.erasePage0 config b).events) := by
  obtain ⟨r, b', es, hpath, hgoes⟩ := erasePage0_path f config b
  exact ⟨r, es, hpath, Drive.EndsAtFault.follows_goes (erasePage0_endsAtFault f config) hgoes⟩

end Flash

end FlashBoot
