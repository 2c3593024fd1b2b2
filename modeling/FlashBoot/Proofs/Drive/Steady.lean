import FlashBoot.Drive

/-!
# Activities on steady boards

Boards are alike when they hold the same device, no faults, and one DataFlash status for ever
(`Board.Alike`). A board that is alike itself is steady: nothing that is asked of it, the other
status register left out, changes what it answers later. An activity is steady when it takes alike
boards for one (`Drive.Steady`): it ends with the same value and the same trace on them, and leaves
them alike. So the order of steady activities on a steady board does not matter to any of them.
-/

namespace FlashBoot

/-- The boards have no faults and the same device, whose DataFlash status is one byte for ever. -/
structure Board.Alike (b b' : Board) : Prop where
  faults : b.faults = []
  faults' : b'.faults = []
  id : b.id = b'.id
  memory : b.memory = b'.memory
  fourByte : b.fourByte = b'.fourByte
  status : ∀ i j, b.dataflashStatus.answer i = b'.dataflashStatus.answer j

namespace Board

variable {b b' b'' : Board} {command : List UInt8}

theorem Alike.symm (h : b.Alike b') : b'.Alike b :=
  ⟨h.faults', h.faults, h.id.symm, h.memory.symm, h.fourByte.symm, fun i j => (h.status j i).symm⟩

theorem Alike.trans (h : b.Alike b') (h' : b'.Alike b'') : b.Alike b'' :=
  ⟨h.faults, h'.faults', h.id.trans h'.id, h.memory.trans h'.memory,
    h.fourByte.trans h'.fourByte, fun i j => (h.status i 0).trans (h'.status 0 j)⟩

/-- A steady board. -/
theorem Alike.self (h : b.Alike b') : b.Alike b := h.trans h.symm

theorem transact_of_no_faults (h : b.faults = []) (count : Nat) :
    b.transact command count =
      (.ok (b.respond command count).1, (b.respond command count).2) := by
  obtain ⟨id, dataflashStatus, norStatus, memory, fourByte, faults⟩ := b
  cases h
  rfl

/-- Alike boards answer the same. -/
theorem Alike.response (h : b.Alike b') (hc : command.headD 0 ≠ Opcode.norStatus.byte)
    (count : Nat) : (b.respond command count).1 = (b'.respond command count).1 := by
  unfold respond
  simp only [if_neg hc, readAddress, h.id, h.memory, h.fourByte, StatusScript.read]
  split
  · rfl
  · split
    · exact List.map_congr_left fun i _ => h.status _ _
    · split <;> rfl

/-- A steady board stays what it is. -/
theorem Alike.respond (h : b.Alike b) (command : List UInt8) (count : Nat) :
    b.Alike (b.respond command count).2 := by
  unfold Board.respond StatusScript.read
  dsimp only
  repeat' split
  all_goals exact ⟨h.faults, h.faults, rfl, rfl, rfl, h.status⟩

end Board

/-! ## Activities -/

/-- The activity takes alike boards for one board. -/
structure Drive.Steady {α : Type} (x : Drive α) : Prop where
  value : ∀ b b' : Board, b.Alike b' → (x b).value = (x b').value
  trace : ∀ b b' : Board, b.Alike b' → (x b).trace = (x b').trace
  board : ∀ b : Board, b.Alike b → b.Alike (x b).board

namespace Drive.Steady

variable {α β : Type} {x : Drive α} {f : α → Drive β}

theorem pure (a : α) : Steady (pure a) := ⟨fun _ _ _ => rfl, fun _ _ _ => rfl, fun _ h => h⟩

theorem log (m : Message) : Steady (Drive.log m) :=
  ⟨fun _ _ _ => rfl, fun _ _ _ => rfl, fun _ h => h⟩

theorem emit (e : Event) : Steady (Drive.emit e) :=
  ⟨fun _ _ _ => rfl, fun _ _ _ => rfl, fun _ h => h⟩

theorem transact {command : List UInt8} (h : command.headD 0 ≠ Opcode.norStatus.byte)
    (shifted : List UInt8) : Steady (Drive.transact command shifted) := by
  refine ⟨fun b b' hb => ?_, fun b b' hb => ?_, fun b hb => ?_⟩
  · simp only [Drive.transact, Board.transact_of_no_faults hb.faults,
      Board.transact_of_no_faults hb.faults', hb.response h]
  · simp only [Drive.transact, Board.transact_of_no_faults hb.faults,
      Board.transact_of_no_faults hb.faults']
  · simp only [Drive.transact, Board.transact_of_no_faults hb.faults]
    exact hb.respond command shifted.length

/-- The boards that two alike boards are left as. -/
theorem alike (h : Steady x) {b b' : Board} (hb : b.Alike b') : (x b).board.Alike (x b').board :=
  (h.board b hb.self).symm.trans (hb.trans (h.board b' hb.symm.self))

/-- Of the second activity only what it does on the values of the first one matters. -/
theorem bind (hx : Steady x) (hf : ∀ b, Steady (f (x b).value)) : Steady (x >>= f) := by
  refine ⟨fun b b' hb => ?_, fun b b' hb => ?_, fun b hb => ?_⟩
  · rw [bind_apply, bind_apply, hx.value b b' hb]
    exact (hf b').value _ _ (hx.alike hb)
  · rw [bind_apply, bind_apply, hx.value b b' hb, hx.trace b b' hb]
    exact congrArg ((x b').trace ++ ·) ((hf b').trace _ _ (hx.alike hb))
  · exact (hx.board b hb).trans ((hf b).board _ (hx.alike hb))

end Drive.Steady

/-- An activity that may end early and takes alike boards for one. -/
def Run.Steady {α : Type} (x : Run α) : Prop := Drive.Steady x.run

end FlashBoot
