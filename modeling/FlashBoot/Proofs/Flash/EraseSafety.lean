import FlashBoot.Proofs.Flash.Erase
import FlashBoot.Proofs.Trace.Kinds

/-!
# Safety of an erase

`erasePage0_safe`: whatever the status registers answer and wherever a fault strikes, an erase
keeps to the order that its family requires.

* On a SPI NOR device (`NorEraseSafe`) the erase command and every status write come right after a
  write enable, a write only clears a protection that the first status read showed, and the erase
  is sent only when the last status read shows none.
* On a DataFlash (`DataflashEraseSafe`) the page erase comes first, and no SPI NOR command is sent.

Both are read off the paths of an erase (`Flash.ErasePath`). The order of the commands is a rule
(`norEraseRule`), which every path heeds and which a fault that cuts the path short does not break.
`Flash.eraseSends_erasePage0`: an erase that succeeds has sent its erase command exactly once.
-/

namespace FlashBoot

open Flash

/-! ## Statements -/

/-- How many status writes unlocking takes when the first status is `s`. -/
def unlockWrites (s : NorStatus) : Nat :=
  if s.isProtected then if s.locked then 2 else 1 else 0

/-- What an erase of a SPI NOR device keeps to, the `k`-th status read answering `s k`: `r` is its
result and `es` are its events. -/
structure NorEraseSafe (s : Nat → NorStatus) (r : Except Failure Unit) (es : List Event) :
    Prop where
  /-- At most one erase command is sent. -/
  once : sendCount .blockErase es ≤ 1
  /-- The erase command is the one at address 0, right after a write enable that went well. The
  last status read before it shows no protection bit, nor the lock if the status was written. -/
  erase : ∀ before t after, es = before ++ .transaction t :: after →
    t.opcode = Opcode.blockErase.byte → t.command = [0x20, 0x00, 0x00, 0x00] ∧
      before.getLast? = some (.sent [0x06]) ∧
      ∃ k, before.count (.asked .norStatus) = k + 1 ∧ (s k).isProtected = false ∧
        (sendCount .writeStatus before ≠ 0 → (s k).locked = false)
  /-- A status write clears every bit, right after a write enable that went well. The first status
  read showed a protection bit, and no erase was sent yet. -/
  write : ∀ before t after, es = before ++ .transaction t :: after →
    t.opcode = Opcode.writeStatus.byte → t.command = [0x01, 0x00] ∧
      before.getLast? = some (.sent [0x06]) ∧ sendCount .blockErase before = 0 ∧
      0 < before.count (.asked .norStatus) ∧ (s 0).isProtected = true
  /-- The status is written twice on a locked and protected device and once on any other protected
  one, unless a fault cuts the unlocking short. -/
  writes : sendCount .writeStatus es = unlockWrites (s 0) ∨
    ∃ code, CutShort code (unlockEvents (s 0)) es
  /-- The device counts as protected exactly when all of the unlocking went well and its second
  status read still shows the lock or a protection bit. -/
  protect : r = .error (.error .protect) ↔
    (s 0).isProtected = true ∧ stillProtected (s 1) = true ∧ unlockEvents (s 0) <+: es
  /-- A device that counts as protected is neither erased nor waited for. -/
  refused : r = .error (.error .protect) →
    sendCount .blockErase es = 0 ∧ ∀ microseconds, .delay microseconds ∉ es
  /-- No DataFlash command is sent. -/
  family : ∀ o ∈ [Opcode.pageErase, .dataflashStatus], sendCount o es = 0

/-- What an erase of a DataFlash keeps to: `es` are its events. -/
structure DataflashEraseSafe (es : List Event) : Prop where
  /-- The page erase at address 0 comes first, and after it only the delay and status reads. -/
  first : ∃ fault rest, es = .transaction ⟨[0x81, 0x00, 0x00, 0x00], [], fault⟩ :: rest ∧
    ∀ e ∈ rest, e.Sends [.dataflashStatus] ∨ ∃ microseconds, e = .delay microseconds
  /-- No SPI NOR command is sent. -/
  family : ∀ o ∈ [Opcode.writeEnable, .writeStatus, .norStatus, .blockErase], sendCount o es = 0

/-- What an erase of a device of either family keeps to. -/
def EraseSafe (s : Nat → NorStatus) (r : Except Failure Unit) (es : List Event) :
    Interface → Prop
  | .nor => NorEraseSafe s r es
  | .dataflash => DataflashEraseSafe es

/-! ## The order of commands -/

/-- What has to hold when a SPI NOR device is sent `t` after the events `before`, its status reads
answering `s`. -/
def norEraseRule (s : Nat → NorStatus) (before : List Event) (t : Transaction) : Prop :=
  (t.opcode = Opcode.blockErase.byte → t.command = [0x20, 0x00, 0x00, 0x00] ∧
    before.getLast? = some (.sent [0x06]) ∧
    ∃ k, before.count (.asked .norStatus) = k + 1 ∧ (s k).isProtected = false ∧
      (sendCount .writeStatus before ≠ 0 → (s k).locked = false)) ∧
  (t.opcode = Opcode.writeStatus.byte → t.command = [0x01, 0x00] ∧
    before.getLast? = some (.sent [0x06]) ∧ sendCount .blockErase before = 0 ∧
    0 < before.count (.asked .norStatus) ∧ (s 0).isProtected = true)

/-- Any other command is free. -/
theorem norEraseRule_of_other {s : Nat → NorStatus} {t : Transaction}
    (he : t.opcode ≠ Opcode.blockErase.byte) (hw : t.opcode ≠ Opcode.writeStatus.byte)
    (before : List Event) : norEraseRule s before t :=
  ⟨fun h => absurd h he, fun h => absurd h hw⟩

theorem sendCount_unlockEvents {o : Opcode} (h : o ∉ [Opcode.norStatus, .writeEnable])
    (s : NorStatus) :
    sendCount o (unlockEvents s) = if o = .writeStatus then unlockWrites s else 0 := by
  unfold unlockEvents unlockWrites
  cases s.isProtected <;> cases s.locked <;> cases o <;> first | rfl | simp at h

theorem count_asked_unlockEvents (s : NorStatus) :
    (unlockEvents s).count (.asked .norStatus) = if s.isProtected then 2 else 1 := by
  unfold unlockEvents
  cases s.isProtected <;> cases s.locked <;> rfl

theorem unlockEvents_heeds (s : Nat → NorStatus) :
    Heeds (norEraseRule s) [] (unlockEvents (s 0)) := by
  have hclear : (s 0).isProtected = true → ∀ past, sendCount .blockErase past = 0 →
      0 < past.count (.asked .norStatus) → Heeds (norEraseRule s) past clearingEvents := by
    intro hp past herase hask
    refine heeds_transaction.2 ⟨norEraseRule_of_other (by decide) (by decide) _, ?_⟩
    refine heeds_transaction.2 ⟨⟨fun h => absurd h (by decide), fun _ => ?_⟩, heeds_nil⟩
    refine ⟨rfl, by simp [Event.sent], ?_, ?_, hp⟩
    · rw [sendCount_append, herase]
      rfl
    · rw [List.count_append]
      omega
  have hask : ∀ past, Heeds (norEraseRule s) past [.asked .norStatus] := fun past =>
    heeds_transaction.2 ⟨norEraseRule_of_other (by decide) (by decide) _, heeds_nil⟩
  unfold unlockEvents
  rw [← List.singleton_append, heeds_append]
  refine ⟨hask _, ?_⟩
  split
  case isFalse => exact heeds_nil
  case isTrue hp =>
    rw [heeds_append, heeds_append]
    refine ⟨⟨?_, hclear hp _ ?_ ?_⟩, hask _⟩
    · split
      · exact hclear hp _ rfl (by decide)
      · exact heeds_nil
    · split <;> rfl
    · split <;> decide

/-! ## The paths -/

theorem sendCount_eraseEvents {o : Opcode} {i : Interface} (h : o ≠ i.statusOpcode)
    (config : Config) (n : Nat) :
    sendCount o (eraseEvents i config n) = if o.byte = (eraseCommand i).headD 0 then 1 else 0 := by
  have hpoll : (Event.asked i.statusOpcode).hasOpcode o = false := by
    cases i <;> cases o <;> first | rfl | exact absurd rfl h
  have hnone : sendCount o (List.replicate n (.asked i.statusOpcode)) = 0 := by
    simp [sendCount, List.countP_replicate, hpoll]
  rw [eraseEvents, sendCount_cons, sendCount_cons, hnone]
  cases i <;> cases o <;> rfl

namespace Flash.ErasePath

variable {config : Config} {b : Board} {r : Except Failure Unit} {es : List Event}

/-- Every path on a SPI NOR device begins with the unlocking. -/
theorem nor_cases (h : ErasePath config b .nor r es) :
    (r = .error (.error .protect) ∧ (b.nor 0).isProtected = true ∧
      stillProtected (b.nor 1) = true ∧ es = unlockEvents (b.nor 0)) ∨
    (r ≠ .error (.error .protect) ∧
      ((b.nor 0).isProtected = true → stillProtected (b.nor 1) = false) ∧
      ∃ n, es = unlockEvents (b.nor 0) ++ .sent [0x06] :: eraseEvents .nor config n) := by
  cases h with
  | refused hp hs => exact .inl ⟨rfl, hp, hs, rfl⟩
  | nor hs _ hr => exact .inr ⟨by rcases hr with rfl | rfl <;> simp, hs, _, rfl⟩

/-- How often a path on a SPI NOR device sends the commands that are no status reads. -/
theorem sendCount_le (h : ErasePath config b .nor r es) {o : Opcode}
    (ho : o ∉ [Opcode.norStatus, .writeEnable, .writeStatus]) :
    sendCount o es ≤ if o = .blockErase then 1 else 0 := by
  have hunlock : sendCount o (unlockEvents (b.nor 0)) = 0 := by
    rw [sendCount_unlockEvents (by grind)]
    exact if_neg (by grind)
  rcases h.nor_cases with ⟨-, -, -, rfl⟩ | ⟨-, -, n, rfl⟩
  · omega
  · rw [sendCount_append, hunlock, sendCount_cons,
      sendCount_eraseEvents (i := .nor) (by rintro rfl; simp [Interface.statusOpcode] at ho)]
    cases o <;> first | decide | simp at ho

theorem heeds (h : ErasePath config b .nor r es) : Heeds (norEraseRule b.nor) [] es := by
  rcases h.nor_cases with ⟨-, -, -, rfl⟩ | ⟨-, hs, n, rfl⟩
  · exact unlockEvents_heeds b.nor
  rw [heeds_append]
  refine ⟨unlockEvents_heeds b.nor, ?_⟩
  refine heeds_transaction.2 ⟨norEraseRule_of_other (by decide) (by decide) _, ?_⟩
  refine heeds_transaction.2 ⟨⟨fun _ => ⟨rfl, ?_, ?_⟩, fun h => absurd h (by decide)⟩, ?_⟩
  · simp [Event.sent]
  · -- the last status read is the second one if the device was protected
    rw [List.nil_append, List.count_append, count_asked_unlockEvents, sendCount_append,
      sendCount_unlockEvents (by simp)]
    cases hp : (b.nor 0).isProtected with
    | false => exact ⟨0, rfl, hp, fun hw => absurd (by simp [unlockWrites, hp]; rfl) hw⟩
    | true =>
      have hclear := hs hp
      rw [stillProtected, Bool.or_eq_false_iff] at hclear
      exact ⟨1, rfl, hclear.2, fun _ => hclear.1⟩
  · refine heeds_delay.2 (heeds_of_forall fun t ht _ => ?_)
    cases Event.transaction.inj (List.eq_of_mem_replicate ht)
    exact norEraseRule_of_other (by decide) (by decide) _

theorem exists_rest (h : ErasePath config b .nor r es) :
    ∃ rest, es = unlockEvents (b.nor 0) ++ rest ∧ sendCount .writeStatus rest = 0 := by
  rcases h.nor_cases with ⟨-, -, -, rfl⟩ | ⟨-, -, n, rfl⟩
  · exact ⟨[], by simp, rfl⟩
  · refine ⟨_, rfl, ?_⟩
    rw [sendCount_cons, sendCount_eraseEvents (by decide)]
    rfl

/-- A path is refused when both status reads say so. -/
theorem refused_iff (h : ErasePath config b .nor r es) :
    r = .error (.error .protect) ↔
      (b.nor 0).isProtected = true ∧ stillProtected (b.nor 1) = true := by
  rcases h.nor_cases with ⟨rfl, hp, hs, -⟩ | ⟨hr, hs, -⟩
  · simp [hp, hs]
  · refine ⟨fun h => absurd h hr, fun ⟨hp, hs'⟩ => ?_⟩
    rw [hs hp] at hs'
    cases hs'

/-- A refused path is the unlocking alone. -/
theorem eq_unlockEvents (h : ErasePath config b .nor r es) (hr : r = .error (.error .protect)) :
    es = unlockEvents (b.nor 0) := by
  rcases h.nor_cases with ⟨-, -, -, he⟩ | ⟨hr', -⟩
  · exact he
  · exact absurd hr hr'

theorem delay_not_mem_unlockEvents (s : NorStatus) (d : UInt32) : .delay d ∉ unlockEvents s := by
  unfold unlockEvents
  cases s.isProtected <;> cases s.locked <;> simp [clearingEvents, Event.asked, Event.sent]

/-- A path without faults is safe. -/
theorem norEraseSafe (h : ErasePath config b .nor r es) : NorEraseSafe b.nor r es := by
  have hcount := @sendCount_le _ _ _ _ h
  refine ⟨hcount (by decide), fun before t after he => (h.heeds before t after he).1,
    fun before t after he => (h.heeds before t after he).2, .inl ?_, ?_, fun hr => ⟨?_, ?_⟩,
    fun o ho => ?_⟩
  · obtain ⟨rest, rfl, hrest⟩ := h.exists_rest
    rw [sendCount_append, sendCount_unlockEvents (by decide), hrest]
    rfl
  · obtain ⟨rest, rfl, -⟩ := h.exists_rest
    have hpre : unlockEvents (b.nor 0) <+: unlockEvents (b.nor 0) ++ rest :=
      List.prefix_append ..
    simp [h.refused_iff, hpre]
  · rw [h.eq_unlockEvents hr, sendCount_unlockEvents (by decide)]
    rfl
  · intro d
    rw [h.eq_unlockEvents hr]
    exact delay_not_mem_unlockEvents _ d
  · have hle := hcount (o := o) (by grind)
    rw [if_neg (by grind)] at hle
    omega

/-- A path that a fault cuts short is safe: the rule and the counts only look at commands, and
what is left of a refused path is not all of it. -/
theorem norEraseSafe_of_cutShort {full : List Event} {code : UInt8}
    (h : ErasePath config b .nor r full) (hfull : Faultless full) (hcut : CutShort code full es) :
    NorEraseSafe b.nor (.error (.error (.bus code))) es := by
  have hsafe := h.norEraseSafe
  have hheeds : Heeds (norEraseRule b.nor) [] es := hcut.heeds (fun _ _ _ h => h) h.heeds
  refine ⟨Nat.le_trans (hcut.sendCount_le _) hsafe.once, fun before t after he =>
    (hheeds before t after he).1, fun before t after he => (hheeds before t after he).2, ?_,
    ⟨nofun, fun ⟨hp, hs, hpre⟩ => ?_⟩, nofun, fun o ho => ?_⟩
  · obtain ⟨rest, rfl, hrest⟩ := h.exists_rest
    rcases hcut.append_cases with hunlock | ⟨es', rfl, hcut'⟩
    · exact .inr ⟨code, hunlock⟩
    · have hle := hcut'.sendCount_le .writeStatus
      rw [sendCount_append, sendCount_unlockEvents (by decide), if_pos rfl]
      exact .inl (by omega)
  · rw [← h.eq_unlockEvents (h.refused_iff.2 ⟨hp, hs⟩)] at hpre
    exact absurd hpre (hcut.not_isPrefix hfull)
  · have hle := hcut.sendCount_le o
    rw [hsafe.family o ho] at hle
    omega

end Flash.ErasePath

/-! ## DataFlash -/

theorem Flash.ErasePath.dataflashEraseSafe {config : Config} {b : Board}
    {r : Except Failure Unit} {es : List Event} (h : ErasePath config b .dataflash r es) :
    DataflashEraseSafe es := by
  cases h with | dataflash _ _ => ?_
  refine ⟨⟨none, _, rfl, fun e he => ?_⟩, fun o ho => ?_⟩
  · rcases List.mem_cons.1 he with rfl | he
    · exact .inr ⟨_, rfl⟩
    · rw [List.eq_of_mem_replicate he]
      exact .inl ⟨.dataflashStatus, by simp, rfl⟩
  · rw [sendCount_eraseEvents]
    all_goals revert o
    all_goals decide

/-- A fault strikes the page erase, or one of the status reads after it. -/
theorem DataflashEraseSafe.cutShort {code : UInt8} {full es : List Event}
    (h : DataflashEraseSafe full) (hcut : CutShort code full es) : DataflashEraseSafe es := by
  refine ⟨?_, fun o ho => ?_⟩
  · obtain ⟨before, t, after, rfl, rfl⟩ := hcut
    obtain ⟨fault, rest, he, hrest⟩ := h.first
    cases before with
    | nil =>
      obtain ⟨ht, rfl⟩ := List.cons.inj he
      cases ht
      exact ⟨some code, [], rfl, fun _ he => absurd he List.not_mem_nil⟩
    | cons e before =>
      obtain ⟨rfl, rfl⟩ := List.cons.inj he
      refine ⟨fault, _, rfl, fun e he => ?_⟩
      rcases List.mem_append.1 he with he | he
      · exact hrest e (List.mem_append_left _ he)
      · rw [List.mem_singleton.1 he]
        have ht := hrest (.transaction t) (by simp)
        rcases ht with ht | ⟨_, ht⟩
        · exact .inl ht
        · cases ht
  · have hle := hcut.sendCount_le o
    rw [h.family o ho] at hle
    omega

/-! ## Other kinds of events -/

theorem Flash.EraseEvent.isPinRead_eq {i : Interface} {e : Event} (h : Flash.EraseEvent i e) :
    e.isPinRead = false := by
  rcases h with h | ⟨_, rfl⟩
  · exact h.sends.isPinRead_eq
  · rfl

theorem hasOpcode_eq_of_erase {i : Interface} {e : Event} (h : Flash.EraseEvent i e) {o : Opcode}
    (ho : o ∉ Flash.eraseOpcodes i) : e.hasOpcode o = false := by
  rcases h with h | ⟨_, rfl⟩
  · exact hasOpcode_eq_of_sends h.sends ho
  · rfl

theorem headerCalls_of_erase {i : Interface} {es : List Event}
    (h : ∀ e ∈ es, Flash.EraseEvent i e) : headerCalls es = [] := by
  refine List.filterMap_eq_nil_iff.2 fun e he => ?_
  cases e with
  | header kind bytes =>
    rcases h _ he with h | ⟨_, h⟩
    · exact h.sends.elim
    · cases h
  | _ => rfl

namespace Flash

theorem eraseSends_unlockEvents (s : NorStatus) : eraseSends (unlockEvents s) = [] := by
  unfold unlockEvents
  cases s.isProtected <;> cases s.locked <;> rfl

theorem eraseSends_eraseEvents (i : Interface) (config : Config) (n : Nat) :
    eraseSends (eraseEvents i config n) = [.sent (eraseCommand i)] := by
  have hpoll : eraseSends (List.replicate n (.asked i.statusOpcode)) = [] := by
    rw [eraseSends, List.filter_replicate]
    cases i <;> rfl
  have hsplit : eraseSends (eraseEvents i config n) =
      .sent (eraseCommand i) :: eraseSends (List.replicate n (.asked i.statusOpcode)) := by
    cases i <;> rfl
  rw [hsplit, hpoll]

/-- An erase that succeeds has sent its erase command once, and nothing struck it. -/
theorem eraseSends_erasePage0 {f : Flash} {config : Config} {b : Board}
    (h : (f.erasePage0 config b).value = .ok ()) :
    eraseSends (f.erasePage0 config b).events = [.sent (eraseCommand f.descriptor.interface)] := by
  obtain ⟨r, es, hpath, -, ⟨hv, he⟩ | ⟨code, hv, -⟩⟩ := erasePage0_follows f config b
  · rw [he]
    rw [h] at hv
    generalize f.descriptor.interface = i at hpath ⊢
    cases hpath with
    | refused _ _ => cases hv
    | nor _ _ _ =>
      have hsplit : ∀ es, eraseSends (.sent [0x06] :: es) = eraseSends es := fun _ => rfl
      rw [eraseSends_append, eraseSends_unlockEvents, hsplit, eraseSends_eraseEvents,
        List.nil_append]
    | dataflash _ _ => exact eraseSends_eraseEvents _ _ _
  · rw [h] at hv
    cases hv

end Flash

/-! ## Safety -/

/-- Whatever the status registers answer and wherever a fault strikes, an erase keeps to the order
of its family. -/
theorem erasePage0_safe (f : Flash) (config : Config) (b : Board) :
    EraseSafe b.nor (f.erasePage0 config b).value (f.erasePage0 config b).events
      f.descriptor.interface := by
  obtain ⟨r, es, hpath, hfaultless, hends⟩ := erasePage0_follows f config b
  cases hi : f.descriptor.interface with
  | nor =>
    rw [hi] at hpath
    rcases hends with ⟨hv, he⟩ | ⟨code, hv, hcut⟩
    · rw [hv, he]
      exact hpath.norEraseSafe
    · rw [hv]
      exact hpath.norEraseSafe_of_cutShort hfaultless hcut
  | dataflash =>
    rw [hi] at hpath
    rcases hends with ⟨-, he⟩ | ⟨code, -, hcut⟩
    · rw [he]
      exact hpath.dataflashEraseSafe
    · exact hpath.dataflashEraseSafe.cutShort hcut

end FlashBoot
