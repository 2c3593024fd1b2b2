import FlashBoot.Board.Setup
import FlashBoot.Proofs.Bus

/-!
# The contract of the command channel

The channel refuses a request without a command, or without room for its response
(`Bus.Refuses`), before it touches the buffer or the bus. Any other request is one transaction with
exactly the bytes of the command and zeros for the response, and its reply overwrites the front of
the buffer and nothing behind it (`exchange_of_ok`, `exchange_of_error`).

`Bus.exchange_contract` collects this for every request on every board (`Bus.Exchanges`), with the
two special forms of a request: one whose response fills the buffer, and one without a response.
-/

namespace FlashBoot.Bus

variable {command response : List UInt8} {buffer : Option (List UInt8)} {count : Nat}
  {b after : Board} {code : UInt8}

/-! ## Refused requests -/

/-- There is no command, or there is a response and no buffer that holds it. -/
def Refuses (command : List UInt8) (buffer : Option (List UInt8)) (count : Nat) : Prop :=
  command = [] ∨ 0 < count ∧ ∀ held, buffer = some held → held.length < count

/-- A missing buffer has as much room as an empty one. -/
theorem refuses_iff : Refuses command buffer count ↔
    command = [] ∨ (buffer.getD []).length < count := by
  refine or_congr_right ?_
  cases buffer with
  | none => simp
  | some held =>
    simp only [Option.some.injEq, forall_eq', Option.getD_some]
    exact ⟨And.right, fun h => ⟨by omega, h⟩⟩

theorem exchange_of_refuses (h : Refuses command buffer count) :
    exchange command buffer count = pure ⟨.error (.error .command), buffer.getD []⟩ := by
  unfold exchange
  by_cases hc : command = []
  · simp [hc]
  · have hroom := (refuses_iff.1 h).resolve_left hc
    have hcount : count ≠ 0 := by omega
    simp [hc, hcount, hroom]

/-! ## Requests that are sent -/

theorem write_of_ok (h : command ≠ []) (ht : b.transact command 0 = (.ok response, after)) :
    write command b = ⟨.ok (), after, [.event (.sent command)]⟩ := by
  rw [write_eq h]
  exact ask_of_ok ht _

theorem write_of_error (h : command ≠ []) (ht : b.transact command 0 = (.error code, after)) :
    write command b = ⟨.error (.error (.bus code)), after, [.event (.struck command 0 code)]⟩ := by
  rw [write_eq h]
  exact ask_of_error ht _

/-- A request without a response is a bare command, in which the buffer plays no part. -/
theorem exchange_zero (command : List UInt8) (buffer : Option (List UInt8)) :
    exchange command buffer 0 = (⟨·, buffer.getD []⟩) <$> (write command).run := by
  by_cases hc : command = []
  · subst hc
    rfl
  · funext b
    simp [exchange, hc, Drive.bind_apply]

/-- A transfer into the front of a buffer, in which these bytes stand behind it. -/
def inFrontOf (rest : List UInt8) (t : Transfer) : Transfer := { t with buffer := t.buffer ++ rest }

/-- A response that is wanted overwrites the front of the buffer. -/
theorem exchange_of_pos (h : ¬ Refuses command buffer count) (hcount : 0 < count) :
    exchange command buffer count =
      (fun reply => inFrontOf ((buffer.getD []).drop count) (.ofReply count reply)) <$>
        Drive.transact command (List.replicate count 0) := by
  rw [refuses_iff, not_or] at h
  have hne : count ≠ 0 := by omega
  funext b
  simp only [exchange, List.isEmpty_iff, h.1, h.2, hne, ↓reduceIte, Drive.bind_apply,
    Drive.map_apply]
  cases (Drive.transact command (List.replicate count 0) b).value <;>
    simp [Transfer.ofReply, inFrontOf]

theorem exchange_of_ok (h : ¬ Refuses command buffer count)
    (ht : b.transact command count = (.ok response, after)) :
    exchange command buffer count b =
      ⟨⟨.ok (), response ++ (buffer.getD []).drop count⟩, after,
        [.event (.fetched command count)]⟩ := by
  rcases Nat.eq_zero_or_pos count with rfl | hcount
  · have hnil : response = [] :=
      List.eq_nil_of_length_eq_zero (Board.length_of_transact (congrArg Prod.fst ht))
    rw [exchange_zero, Drive.map_apply, ExceptT.run, write_of_ok (fun hc => h (.inl hc)) ht, hnil]
    rfl
  · rw [exchange_of_pos h hcount, Drive.map_apply]
    simp [Drive.transact, ht, Event.fetched, Transfer.ofReply, inFrontOf]

theorem exchange_of_error (h : ¬ Refuses command buffer count)
    (ht : b.transact command count = (.error code, after)) :
    exchange command buffer count b =
      ⟨⟨.error (.error (.bus code)), List.replicate count 0 ++ (buffer.getD []).drop count⟩, after,
        [.event (.struck command count code)]⟩ := by
  rcases Nat.eq_zero_or_pos count with rfl | hcount
  · rw [exchange_zero, Drive.map_apply, ExceptT.run, write_of_error (fun hc => h (.inl hc)) ht]
    rfl
  · rw [exchange_of_pos h hcount, Drive.map_apply]
    simp [Drive.transact, ht, Event.struck, Transfer.ofReply, inFrontOf]

/-! ## The contract -/

/-- What a request does on a board. A missing buffer counts as one without bytes. -/
structure Exchanges (command : List UInt8) (buffer : Option (List UInt8)) (count : Nat)
    (b : Board) : Prop where
  refused : (exchange command buffer count b).value.result = .error (.error .command) ↔
    Refuses command buffer count
  /-- A refused request leaves everything as it was. -/
  untouched : Refuses command buffer count →
    exchange command buffer count b = ⟨⟨.error (.error .command), buffer.getD []⟩, b, []⟩
  /-- Any other one is a single transaction. Its response has the wanted length and stands at the
  front of the buffer. -/
  answered : ¬ Refuses command buffer count →
    ∀ response after, b.transact command count = (.ok response, after) →
      response.length = count ∧ exchange command buffer count b =
        ⟨⟨.ok (), response ++ (buffer.getD []).drop count⟩, after,
          [.event (.fetched command count)]⟩
  /-- If a fault strikes it, its code is reported and zeros stand there. -/
  failed : ¬ Refuses command buffer count →
    ∀ code after, b.transact command count = (.error code, after) →
      exchange command buffer count b =
        ⟨⟨.error (.error (.bus code)), List.replicate count 0 ++ (buffer.getD []).drop count⟩,
          after, [.event (.struck command count code)]⟩
  /-- However it ends, the bytes behind the response stay. -/
  behind : (exchange command buffer count b).value.buffer.drop count = (buffer.getD []).drop count

theorem exchange_exchanges (command : List UInt8) (buffer : Option (List UInt8)) (count : Nat)
    (b : Board) : Exchanges command buffer count b := by
  by_cases h : Refuses command buffer count
  · have heq : exchange command buffer count b =
        ⟨⟨.error (.error .command), buffer.getD []⟩, b, []⟩ := by
      rw [exchange_of_refuses h]
      rfl
    refine ⟨⟨fun _ => h, fun _ => ?_⟩, fun _ => heq, fun hn => absurd h hn, fun hn => absurd h hn,
      ?_⟩
    · rw [heq]
    · rw [heq]
  · refine ⟨⟨fun hr => ?_, fun hr => absurd hr h⟩, fun hr => absurd hr h,
      fun _ response after ht => ⟨?_, exchange_of_ok h ht⟩,
      fun _ code after ht => exchange_of_error h ht, ?_⟩
    · -- a transaction is never reported as a request that was refused
      rcases ht : b.transact command count with ⟨code | response, after⟩
      · rw [exchange_of_error h ht] at hr
        cases hr
      · rw [exchange_of_ok h ht] at hr
        cases hr
    · exact Board.length_of_transact (congrArg Prod.fst ht)
    · rcases ht : b.transact command count with ⟨code | response, after⟩
      · rw [exchange_of_error h ht]
        exact List.drop_left' List.length_replicate
      · rw [exchange_of_ok h ht]
        exact List.drop_left' (Board.length_of_transact (congrArg Prod.fst ht))

/-- Every request is refused as a whole, or is one transaction that concerns the front of the buffer
only. A transfer that fills a buffer, and a bare command, are requests like any other. -/
theorem exchange_contract (command : List UInt8) (buffer : Option (List UInt8)) (count : Nat)
    (b : Board) :
    Exchanges command buffer count b ∧
    (∀ held, read command held = exchange command (some held) held.length) ∧
    ∀ buffer : Option (List UInt8),
      exchange command buffer 0 = (⟨·, buffer.getD []⟩) <$> (write command).run :=
  ⟨exchange_exchanges command buffer count b, fun _ => rfl, exchange_zero command⟩

/-- Five bytes into a buffer of eight. -/
example : (exchange [0x03] (some (List.replicate 8 0x55)) 5 .blank).value.buffer =
    [0xA0, 0xA1, 0xA2, 0xA3, 0xA4, 0x55, 0x55, 0x55] := by
  rfl

end FlashBoot.Bus
