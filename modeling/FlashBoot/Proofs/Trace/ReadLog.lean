import FlashBoot.Proofs.Geometry.Address
import FlashBoot.Proofs.Trace.Kinds

/-!
# The read log

A trace shows the reads of a flash twice: the fast reads on the bus (`Trace.fastReads`), and what is
logged of them (`Trace.readNotes`). A note belongs to a fast read when it tells its flat offset, its
address and its size, or its flat offset if it failed (`Geometry.Notes`), and the notes of one read
belong to fast reads from running offsets (`Geometry.NotesFrom`). A trace without any of it has
nothing of a read (`Trace.Readless`).
-/

namespace FlashBoot

/-! ## What a trace says of reads -/

/-- Whether the message is a note of the read log: any message at the level of traces, and the error
of a chunk. -/
def Message.isReadNote : Message → Bool
  | .chunkFailed _ => true
  | m => m.severity = .trace

namespace Trace

/-- The fast reads on the bus, in order. -/
def fastReads (t : Trace) : List Transaction :=
  t.filterMap fun
    | .event (.transaction s) => if s.opcode = Opcode.fastRead.byte then some s else none
    | _ => none

/-- The notes of the read log, in order. -/
def readNotes (t : Trace) : List Message := t.messages.filter Message.isReadNote

/-- The length and the offset of every bulk read that was begun, in order. -/
def copies (t : Trace) : List (UInt32 × UInt32) :=
  t.messages.filterMap fun
    | .copying length offset => some (length, offset)
    | _ => none

/-- How many bytes the fast reads ask for. -/
def requested (t : Trace) : Nat := (t.fastReads.map (·.shifted.length)).sum

@[simp] theorem fastReads_append (s t : Trace) :
    fastReads (s ++ t) = s.fastReads ++ t.fastReads :=
  List.filterMap_append

@[simp] theorem readNotes_append (s t : Trace) :
    readNotes (s ++ t) = s.readNotes ++ t.readNotes := by
  rw [readNotes, messages_append, List.filter_append]
  rfl

@[simp] theorem copies_append (s t : Trace) : copies (s ++ t) = s.copies ++ t.copies := by
  rw [copies, messages_append, List.filterMap_append]
  rfl

@[simp] theorem requested_append (s t : Trace) :
    requested (s ++ t) = s.requested + t.requested := by
  simp [requested]

/-- Nothing of a read: no fast read, no note of one, and no bulk read that is begun. -/
structure Readless (t : Trace) : Prop where
  fastReads : t.fastReads = []
  readNotes : t.readNotes = []
  copies : t.copies = []

namespace Readless

variable {s t : Trace}

theorem nil : Readless [] := ⟨rfl, rfl, rfl⟩

theorem append (hs : s.Readless) (ht : t.Readless) : Readless (s ++ t) := by
  constructor
  · rw [fastReads_append, hs.fastReads, ht.fastReads, List.append_nil]
  · rw [readNotes_append, hs.readNotes, ht.readNotes, List.append_nil]
  · rw [copies_append, hs.copies, ht.copies, List.append_nil]

theorem event {e : Event} (h : e.hasOpcode .fastRead = false) : Readless [.event e] := by
  cases e with
  | transaction t => exact ⟨List.filterMap_cons_none (if_neg (of_decide_eq_false h)), rfl, rfl⟩
  | _ => exact ⟨rfl, rfl, rfl⟩

theorem message {m : Message} (h : m.isOfReading = false) : Readless [.message m] := by
  cases m <;> first | exact ⟨rfl, rfl, rfl⟩ | cases h

end Readless

end Trace

/-! ## Notes of fast reads -/

namespace Geometry

variable {g : Geometry}

/-- The address that a fast read carries in its command, in the framing of the geometry. -/
def sentAddress (g : Geometry) (t : Transaction) : Nat :=
  numberOf ((t.command.drop 1).take (if g.fourByte then 4 else 3))

theorem sentAddress_fastRead {address : Nat} (h : address < g.reach) (shifted : List UInt8)
    (fault : Option UInt8) : g.sentAddress ⟨g.fastRead address, shifted, fault⟩ = address := by
  rw [reach] at h
  cases hg : g.fourByte with
  | true =>
    rw [hg] at h
    simp only [sentAddress, fastRead, hg, ↓reduceIte, List.drop_succ_cons, List.drop_zero]
    rw [List.take_of_length_le (by simp), numberOf_addressBytes h]
  | false =>
    rw [hg] at h
    simp only [sentAddress, fastRead, hg, Bool.false_eq_true, ↓reduceIte, List.drop_succ_cons,
      List.drop_zero]
    rw [List.take_left' (length_addressBytes 3 address), numberOf_addressBytes h]

/-- The message is the note of a fast read for the flat offset `x`: the read carries the address of
that offset, which the note tells together with the size, or only the offset if it failed. -/
inductive Notes (g : Geometry) (x : UInt32) (t : Transaction) : Message → Prop
  | arrived {address : Address} (fault : t.fault = none)
      (translated : Address.ofOffset g x = .ok address)
      (sent : g.sentAddress t = address.value.toNat) :
      Notes g x t (.chunkRead x address.value t.shifted.length)
  | failed {address : Address} {code : UInt8} (fault : t.fault = some code)
      (translated : Address.ofOffset g x = .ok address)
      (sent : g.sentAddress t = address.value.toNat) : Notes g x t (.chunkFailed x)

namespace Notes

variable {x : UInt32} {t : Transaction} {m : Message}

theorem isReadNote (h : g.Notes x t m) : m.isReadNote = true := by
  cases h <;> rfl

theorem copies (h : g.Notes x t m) : Trace.copies [.message m] = [] := by
  cases h <;> rfl

end Notes

/-- The message is the note of the fast read, for some flat offset. -/
def Noted (g : Geometry) (t : Transaction) (m : Message) : Prop := ∃ x, g.Notes x t m

/-- The messages are the notes of the fast reads, one for each and in order, and each of these goes
on at the flat offset where the one before it ended, the first one at `x`. -/
inductive NotesFrom (g : Geometry) : UInt32 → List Transaction → List Message → Prop
  | nil (x : UInt32) : NotesFrom g x [] []
  | cons {x : UInt32} {t : Transaction} {m : Message} {ts : List Transaction} {ms : List Message}
      (first : g.Notes x t m) (rest : NotesFrom g (x + .ofNat t.shifted.length) ts ms) :
      NotesFrom g x (t :: ts) (m :: ms)

namespace NotesFrom

variable {x : UInt32} {ts ts' : List Transaction} {ms ms' : List Message}

theorem append (h : g.NotesFrom x ts ms)
    (h' : g.NotesFrom (x + .ofNat (ts.map (·.shifted.length)).sum) ts' ms') :
    g.NotesFrom x (ts ++ ts') (ms ++ ms') := by
  induction h with
  | nil x => simpa using h'
  | cons first _ ih =>
    rw [List.map_cons, List.sum_cons, UInt32.ofNat_add, ← UInt32.add_assoc] at h'
    exact .cons first (ih h')

theorem noted (h : g.NotesFrom x ts ms) : List.Forall₂ g.Noted ts ms := by
  induction h with
  | nil => exact .nil
  | cons first _ ih => exact .cons ⟨_, first⟩ ih

end NotesFrom

end Geometry

/-- The trace of a read of at most `n` bytes from the flat offset `x` on. -/
structure Trace.LogsRead (g : Geometry) (x : UInt32) (n : Nat) (t : Trace) : Prop where
  notes : g.NotesFrom x t.fastReads t.readNotes
  copies : t.copies = []
  requested_le : t.requested ≤ n

namespace Trace.LogsRead

variable {g : Geometry} {x : UInt32} {n k : Nat} {s t : Trace}

theorem of_readless (h : t.Readless) : LogsRead g x n t := by
  refine ⟨?_, h.copies, ?_⟩
  · rw [h.fastReads, h.readNotes]
    exact .nil x
  · rw [requested, h.fastReads]
    exact Nat.zero_le n

/-- Behind a read, one that goes on where it ended. -/
theorem append (hs : LogsRead g x n s) (hall : s.requested = n)
    (ht : LogsRead g (x + .ofNat n) k t) : LogsRead g x (n + k) (s ++ t) := by
  refine ⟨?_, ?_, ?_⟩
  · rw [fastReads_append, readNotes_append]
    refine hs.notes.append ?_
    rw [← requested, hall]
    exact ht.notes
  · rw [copies_append, hs.copies, ht.copies, List.append_nil]
  · rw [requested_append, hall]
    exact Nat.add_le_add_left ht.requested_le n

/-- Behind a read, what is nothing of one. -/
theorem append_readless (hs : LogsRead g x n s) (ht : t.Readless) : LogsRead g x n (s ++ t) := by
  refine ⟨?_, ?_, ?_⟩
  · rw [fastReads_append, readNotes_append, ht.fastReads, ht.readNotes, List.append_nil,
      List.append_nil]
    exact hs.notes
  · rw [copies_append, hs.copies, ht.copies, List.append_nil]
  · rw [requested_append, requested, requested, ht.fastReads]
    exact hs.requested_le

end Trace.LogsRead

end FlashBoot
