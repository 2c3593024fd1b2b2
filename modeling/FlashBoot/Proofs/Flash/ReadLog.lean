import FlashBoot.Board.Setup
import FlashBoot.Proofs.Flash.CheckedRead
import FlashBoot.Proofs.Trace.ReadLog
import Mathlib.Data.List.Forall2

/-!
# The log of a read

A chunk is one fast read and its note, or nothing at all (`Geometry.Notes.logsRead`). The next chunk
starts where this one ended, so the notes of a read belong to fast reads from running offsets
(`Geometry.Reads.logs`), however far it gets. `Flash.readAll` makes read after read on one board.
-/

namespace FlashBoot

/-- How the trace of a read of `n` bytes from `x` on and its result belong together. -/
structure Trace.LogsWhole (g : Geometry) (x : UInt32) (n : Nat) (r : Except Failure Unit)
    (t : Trace) : Prop extends t.LogsRead g x n where
  requested_eq : r = .ok () → t.requested = n

namespace Trace.LogsWhole

variable {g : Geometry} {x : UInt32} {n k : Nat} {r : Except Failure Unit} {t : Trace}

/-- A read that is refused before anything is sent. -/
theorem refused (ht : t.Readless) (e : Failure) : LogsWhole g x n (.error e) t :=
  ⟨.of_readless ht, nofun⟩

end Trace.LogsWhole

namespace Geometry

variable {g : Geometry} {x : UInt32} {n k : Nat} {r : Except Failure Unit} {t : Trace}

/-- One fast read, and the note of it. -/
theorem Notes.logsRead {s : Transaction} {m : Message} (h : g.Notes x s m)
    (hopcode : s.opcode = Opcode.fastRead.byte) (hsize : s.shifted.length ≤ n) :
    Trace.LogsRead g x n [.event (.transaction s), .message m] ∧
      Trace.requested [.event (.transaction s), .message m] = s.shifted.length := by
  have hreads : Trace.fastReads [.event (.transaction s), .message m] = [s] :=
    List.filterMap_cons_some (if_pos hopcode)
  have hnotes : Trace.readNotes [.event (.transaction s), .message m] = [m] :=
    List.filter_cons_of_pos h.isReadNote
  have hrequested : Trace.requested [.event (.transaction s), .message m] = s.shifted.length := by
    rw [Trace.requested, hreads]
    rfl
  refine ⟨⟨?_, h.copies, by rwa [hrequested]⟩, hrequested⟩
  rw [hreads, hnotes]
  exact .cons h (.nil _)

theorem ReadsChunks.logs (h : g.ReadsChunks x n r t) : t.LogsWhole g x n r := by
  induction h with
  | done x => exact ⟨.of_readless .nil, fun _ => rfl⟩
  | refused _ _ => exact .refused .nil _
  | @struck x n k a code hpos hle htranslated hfits =>
    have hsent := sentAddress_fastRead (fits_iff.1 hfits) (List.replicate k 0) (some code)
    have hnote : g.Notes x ⟨g.fastRead a.value.toNat, List.replicate k 0, some code⟩ _ :=
      .failed rfl htranslated hsent
    exact ⟨(hnote.logsRead rfl (by rwa [List.length_replicate])).1, nofun⟩
  | @arrived x n k a r t hpos htranslated hfits _ ih =>
    have hsent := sentAddress_fastRead (fits_iff.1 hfits) (List.replicate k 0) none
    have hsize : (List.replicate k (0 : UInt8)).length = k := List.length_replicate
    have hnote := Notes.arrived rfl htranslated hsent
    rw [hsize] at hnote
    obtain ⟨hfirst, hrequested⟩ := hnote.logsRead rfl (Nat.le_of_eq hsize)
    rw [hsize] at hrequested
    refine ⟨hfirst.append hrequested ih.toLogsRead, fun hok => ?_⟩
    exact (Trace.requested_append _ _).trans (congrArg₂ _ hrequested (ih.requested_eq hok))

/-- However far a read gets, its notes are those of the fast reads that it sent. -/
theorem Reads.logs (h : g.Reads x n r t) : t.LogsWhole g x n r := by
  cases h with
  | beyond _ _ => exact .refused .nil _
  | trapped _ _ => exact .refused .nil _
  | unreachable _ _ _ => exact .refused ⟨rfl, rfl, rfl⟩ _
  | chunks _ _ hchunks => exact hchunks.logs

end Geometry

namespace Flash

variable {f : Flash}

theorem read_logs (f : Flash) (offset : UInt32) (buffer : List UInt8) :
    (f.read offset buffer).Leaves fun _ t => t.LogsRead f.geometry offset buffer.length :=
  (f.read_leaves offset buffer).mono fun _ _ ⟨_, hway⟩ => hway.logs.toLogsRead

theorem readChecked_logs (f : Flash) (check : RangeCheck) (offset : UInt32)
    (buffer : List UInt8) : (f.readChecked check offset buffer).Leaves
      fun _ t => t.LogsRead f.geometry offset buffer.length := by
  refine (f.readChecked_inStep check offset buffer).leaves.mono fun _ t ⟨_, h⟩ => ?_
  obtain ⟨-, rfl⟩ | hway := h
  · exact .of_readless .nil
  · exact hway.logs.toLogsRead

end Flash

/-! ## Series of reads -/

/-- A call of one of the two reads, on a board that is set up for it. -/
structure ReadCall where
  setup : Setup
  /-- Whether what lies outside the array is refused. -/
  within : Bool
  offset : UInt32
  buffer : List UInt8

namespace Flash

/-- The read that a call asks for. -/
def answer (f : Flash) (call : ReadCall) : Drive Transfer :=
  if call.within then f.readWithin call.offset call.buffer else f.read call.offset call.buffer

/-- Read after read on one board, each after its setup. -/
def readAll (f : Flash) : List ReadCall → Board → List (Outcome Transfer)
  | [], _ => []
  | call :: calls, board =>
    let outcome := f.answer call (board.configure call.setup)
    outcome :: f.readAll calls outcome.board

/-- The log of a series of reads is that of its fast reads. -/
structure LogsReads (f : Flash) (calls : List ReadCall) (b : Board) : Prop where
  /-- The notes of each read are those of its own fast reads, which follow each other from its
  offset on. -/
  each : List.Forall₂ (fun call (o : Outcome Transfer) => o.trace.copies = [] ∧
    f.geometry.NotesFrom call.offset o.trace.fastReads o.trace.readNotes) calls (f.readAll calls b)
  /-- So there is one note for each fast read of the series, in order. -/
  all : List.Forall₂ f.geometry.Noted
    (Trace.fastReads ((f.readAll calls b).flatMap Outcome.trace))
    (Trace.readNotes ((f.readAll calls b).flatMap Outcome.trace))

theorem answer_logs (f : Flash) (call : ReadCall) : (f.answer call).Leaves
    fun _ t => t.LogsRead f.geometry call.offset call.buffer.length := by
  unfold answer
  split
  · exact f.readChecked_logs checkSlice call.offset call.buffer
  · exact f.read_logs call.offset call.buffer

theorem readAll_logs (f : Flash) (calls : List ReadCall) (b : Board) : f.LogsReads calls b := by
  induction calls generalizing b with
  | nil => exact ⟨.nil, .nil⟩
  | cons call calls ih =>
    have hfirst := f.answer_logs call (b.configure call.setup)
    have hrest := ih (f.answer call (b.configure call.setup)).board
    refine ⟨.cons ⟨hfirst.copies, hfirst.notes⟩ hrest.each, ?_⟩
    rw [readAll, List.flatMap_cons, Trace.fastReads_append, Trace.readNotes_append]
    exact List.rel_append hfirst.notes.noted hrest.all

end Flash

end FlashBoot
