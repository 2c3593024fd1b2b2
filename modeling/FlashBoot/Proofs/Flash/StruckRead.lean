import FlashBoot.Proofs.Flash.PagedRead
import FlashBoot.Proofs.Flash.Ways

/-!
# What a fault leaves of a read

A fault that strikes a fast read ends the read of which it is a chunk. `cutBuffer` is what is then
in the buffer: the chunks before it arrived, its own bytes are the zeros that were shifted out, and
what stands behind it was never touched.

* `readChunk_ends_or_struck`: one chunk goes as without faults, or leaves zeros.
* `readChunks_ends_or_struck`: so the chunks of a read do, or one of them is struck and the last.
* `struckRead_leaves` says for an identified device which chunk that is, and where its bytes are
  (`Flash.StruckAt`).
-/

namespace FlashBoot

/-- `old`, with the first `done` bytes read as in `full` and zeros for the next `size` ones. -/
def cutBuffer (full old : List UInt8) (done size : Nat) : List UInt8 :=
  full.take done ++ (List.replicate size 0 ++ old.drop (done + size))

section
variable {full old : List UInt8} {done size i : Nat}

theorem getElem?_cutBuffer_done (h : done ≤ full.length) (hi : i < done) :
    (cutBuffer full old done size)[i]? = full[i]? := by
  rw [cutBuffer, List.getElem?_append_left (by rw [List.length_take]; omega),
    List.getElem?_take_of_lt hi]

theorem getElem?_cutBuffer_zero (h : done ≤ full.length) (hi : done ≤ i) (hi' : i < done + size) :
    (cutBuffer full old done size)[i]? = some 0 := by
  have hlen : (full.take done).length = done := List.length_take_of_le h
  rw [cutBuffer, List.getElem?_append_right (by omega), hlen,
    List.getElem?_append_left (by rw [List.length_replicate]; omega),
    List.getElem?_replicate_of_lt (by omega)]

theorem getElem?_cutBuffer_old (h : done ≤ full.length) (hi : done + size ≤ i) :
    (cutBuffer full old done size)[i]? = old[i]? := by
  have hlen : (full.take done).length = done := List.length_take_of_le h
  have hindex : done + size + (i - done - size) = i := by omega
  rw [cutBuffer, List.getElem?_append_right (by omega), hlen,
    List.getElem?_append_right (by rw [List.length_replicate]; omega), List.length_replicate,
    List.getElem?_drop, hindex]

/-- A chunk that arrived stands before what was cut. -/
theorem cutBuffer_append (first : List UInt8) {n : Nat} (hfirst : first.length = n) :
    first ++ cutBuffer full (old.drop n) done size =
      cutBuffer (first ++ full) old (n + done) size := by
  subst hfirst
  simp only [cutBuffer, List.drop_drop, List.take_length_add_append, List.append_assoc,
    Nat.add_assoc]

end

namespace Flash

variable {f : Flash} {offset : UInt32} {b : Board}

/-! ## Chunks -/

/-- A chunk that arrives on a board without faults is one transaction on any board. -/
theorem exists_transact_of_ok {chunk : List UInt8} (hchunk : chunk ≠ [])
    (hok : (f.readChunk offset chunk b.quiet).value.result = .ok ()) :
    ∃ command, ∀ b, (f.readChunk offset chunk b).value =
        .ofReply chunk.length (b.transact command chunk.length).1 ∧
      (f.readChunk offset chunk b).board = (b.transact command chunk.length).2 ∧
      (f.readChunk offset chunk b).events.length = 1 := by
  obtain ⟨e, -, heq⟩ | ⟨address, -, -, heq⟩ := f.readChunk_cases offset
  · rw [heq] at hok
    cases hok
  · refine ⟨f.geometry.fastRead address.value.toNat, fun b => ?_⟩
    rw [heq, Bus.read_eq (f.geometry.fastRead_ne_nil _) hchunk]
    refine ⟨?_, ?_, rfl⟩ <;> simp [Drive.bind_apply, Drive.transact]

/-- Started on `b`, a chunk goes as without the faults of `b`, or it leaves zeros. -/
theorem readChunk_ends_or_struck {chunk : List UInt8} (hchunk : chunk ≠ [])
    (hok : (f.readChunk offset chunk b.quiet).value.result = .ok ()) :
    (f.readChunk offset chunk b).events.length = 1 ∧
    ((f.readChunk offset chunk b).value = (f.readChunk offset chunk b.quiet).value ∧
        (f.readChunk offset chunk b).board.quiet = (f.readChunk offset chunk b.quiet).board ∨
      ∃ e, (f.readChunk offset chunk b).value = ⟨.error e, List.replicate chunk.length 0⟩) := by
  obtain ⟨command, h⟩ := exists_transact_of_ok hchunk hok
  obtain ⟨hvalue, hboard, hevents⟩ := h b
  obtain ⟨hvalue', hboard', -⟩ := h b.quiet
  refine ⟨hevents, ?_⟩
  rw [hvalue, hboard, hvalue', hboard']
  obtain ⟨hr, hb⟩ | ⟨code, hr⟩ := b.transact_cases command chunk.length
  · exact .inl ⟨by rw [hr], hb⟩
  · exact .inr ⟨.error (.bus code), by rw [hr]; rfl⟩

/-! ## Chunk by chunk -/

/-- A chunk that arrived, and the chunks that were read behind it. -/
def followedBy (first rest : Outcome Transfer) : Outcome Transfer :=
  ⟨⟨rest.value.result, first.value.buffer ++ rest.value.buffer⟩, rest.board,
    first.trace ++ rest.trace⟩

theorem readChunks_cons_of_ok {size : Nat} {buffer : List UInt8}
    (h : (f.readChunk offset (buffer.take size) b).value.result = .ok ()) (sizes : List Nat) :
    f.readChunks (size :: sizes) offset buffer b =
      followedBy (f.readChunk offset (buffer.take size) b)
        (f.readChunks sizes (offset + .ofNat size) (buffer.drop size)
          (f.readChunk offset (buffer.take size) b).board) := by
  rw [readChunks, Drive.bind_apply, h]
  rfl

theorem readChunks_cons_of_error {size : Nat} {buffer : List UInt8} {e : Failure}
    (h : (f.readChunk offset (buffer.take size) b).value.result = .error e) (sizes : List Nat) :
    f.readChunks (size :: sizes) offset buffer b =
      { f.readChunk offset (buffer.take size) b with
        value := ⟨.error e,
          (f.readChunk offset (buffer.take size) b).value.buffer ++ buffer.drop size⟩ } := by
  rw [readChunks, Drive.bind_apply, h]
  simp

/-- How reading chunks of these sizes into `old` ends, where it ends with `q` without faults. -/
inductive EndsOrStruck (sizes : List Nat) (old : List UInt8) (o q : Outcome Transfer) : Prop
  | ends : o.value = q.value → EndsOrStruck sizes old o q
  /-- A chunk was struck behind some that arrived; it was the last to be sent. -/
  | struck {done left : List Nat} {size : Nat} : sizes = done ++ size :: left →
      o.events.length = done.length + 1 →
      o.value.buffer = cutBuffer q.value.buffer old done.sum size → EndsOrStruck sizes old o q

/-- A chunk that arrives in front of others does not change how they end. -/
theorem EndsOrStruck.cons {sizes : List Nat} {size : Nat} {old : List UInt8}
    {first first' rest rest' : Outcome Transfer} (hevents : first.events.length = 1)
    (hvalue : first.value = first'.value) (hlen : first'.value.buffer.length = size)
    (h : EndsOrStruck sizes (old.drop size) rest rest') :
    EndsOrStruck (size :: sizes) old (followedBy first rest) (followedBy first' rest') := by
  cases h with
  | ends hrest => exact .ends (by rw [followedBy, followedBy, hvalue, hrest])
  | @struck done left struck hsizes hcount hbuffer =>
    have hcons : size :: sizes = (size :: done) ++ struck :: left := by
      rw [hsizes]
      rfl
    refine .struck hcons ?_ ?_
    · have happend : (followedBy first rest).events = first.events ++ rest.events :=
        Trace.events_append _ _
      rw [happend, List.length_append, hevents, hcount, List.length_cons]
      omega
    · have happend : first'.value.buffer ++
          cutBuffer rest'.value.buffer (old.drop size) done.sum struck =
            cutBuffer (first'.value.buffer ++ rest'.value.buffer) old (size + done.sum) struck :=
        cutBuffer_append _ hlen
      rw [List.sum_cons]
      exact (congrArg₂ _ (congrArg Transfer.buffer hvalue) hbuffer).trans happend

theorem readChunks_ends_or_struck {sizes : List Nat} {buffer : List UInt8}
    (hfills : Fills sizes buffer)
    (hok : (f.readChunks sizes offset buffer b.quiet).value.result = .ok ()) :
    EndsOrStruck sizes buffer (f.readChunks sizes offset buffer b)
      (f.readChunks sizes offset buffer b.quiet) := by
  induction sizes generalizing offset buffer b with
  | nil => exact .ends rfl
  | cons size sizes ih =>
    have hne := hfills.take_ne_nil
    have htake := hfills.length_take
    -- without faults every chunk arrives, as otherwise the read would not
    have hfirst : (f.readChunk offset (buffer.take size) b.quiet).value.result = .ok () := by
      cases hr : (f.readChunk offset (buffer.take size) b.quiet).value.result with
      | ok _ => rfl
      | error e =>
        rw [readChunks_cons_of_error hr] at hok
        cases hok
    have hlen := ((f.readChunk_inStep offset hne rfl).both b.quiet).1.1.writes.length
    rw [readChunks_cons_of_ok hfirst] at hok ⊢
    obtain ⟨hevents, ⟨hvalue, hboard⟩ | ⟨e, hvalue⟩⟩ := readChunk_ends_or_struck hne hfirst
    · rw [readChunks_cons_of_ok ((congrArg Transfer.result hvalue).trans hfirst)]
      rw [← hboard] at hok ⊢
      exact .cons hevents hvalue (hlen.trans htake) (ih hfills.drop hok)
    · rw [readChunks_cons_of_error (congrArg Transfer.result hvalue)]
      refine .struck (List.nil_append _).symm hevents ?_
      simp [hvalue, htake, cutBuffer]

/-! ## Reads -/

/-- What a read leaves when a fault with this code strikes its `k`-th fast read, in transactions of
at most `limit` bytes. It is compared with the same read on the board without its faults. -/
structure StruckAt (f : Flash) (limit k : Nat) (code : UInt8) (offset : UInt32)
    (buffer : List UInt8) (b : Board) : Prop where
  result : (f.read offset buffer b).value.result = .error (.error (.bus code))
  /-- Nothing but fast reads was sent, and none behind the one that was struck. -/
  fastReads : ∀ e ∈ (f.read offset buffer b).events, ReadEvent f.geometry e
  count : (f.read offset buffer b).events.length = k + 1
  /-- They are those that are sent without faults, up to the end of the last one. -/
  events : ∃ t, (f.read offset buffer b.quiet).events[k]? = some (.transaction t) ∧
    (f.read offset buffer b).events = (f.read offset buffer b.quiet).events.take k ++
      [.transaction { t with fault := some code }]
  length : (f.read offset buffer b).value.buffer.length = buffer.length
  /-- The chunks before it arrived. -/
  done : ∀ i < k * limit, (f.read offset buffer b).value.buffer[i]? =
    (f.read offset buffer b.quiet).value.buffer[i]?
  /-- The chunk in flight, which may be the short last one, is zeros. -/
  inFlight : ∀ i, k * limit ≤ i → i < min buffer.length ((k + 1) * limit) →
    (f.read offset buffer b).value.buffer[i]? = some 0
  /-- The bytes behind it were not touched. -/
  untouched : ∀ i, (k + 1) * limit ≤ i →
    (f.read offset buffer b).value.buffer[i]? = buffer[i]?

/-- A read that goes well without faults goes as it does, or a chunk of it is struck. -/
theorem read_ends_or_struck {buffer : List UInt8}
    (hok : (f.read offset buffer b.quiet).value.result = .ok ()) :
    EndsOrStruck (chunkSizes buffer.length f.maxTransfer) buffer (f.read offset buffer b)
      (f.read offset buffer b.quiet) := by
  obtain ⟨e, -, -, heq⟩ | ⟨-, heq⟩ | ⟨-, heq⟩ := f.read_cases offset buffer.length
  · rw [heq buffer rfl] at hok
    cases hok
  · rw [heq buffer rfl] at hok
    cases hok
  · rw [heq buffer rfl] at hok ⊢
    exact readChunks_ends_or_struck (fills_chunkSizes ..) hok

/-- A fault that shows in the events cut them short, and is the last of them. -/
theorem cutShort_of_fault {buffer : List UInt8} {k : Nat} {t : Transaction} {code : UInt8}
    (hk : (f.read offset buffer b).events[k]? = some (.transaction t))
    (ht : t.fault = some code) :
    (f.read offset buffer b).value.result = .error (.error (.bus code)) ∧
    (f.read offset buffer b).events.length = k + 1 ∧
    ∃ t, (f.read offset buffer b.quiet).events[k]? = some (.transaction t) ∧
      (f.read offset buffer b).events = (f.read offset buffer b.quiet).events.take k ++
        [.transaction { t with fault := some code }] := by
  have hends := f.read_endsAtFault offset buffer
  have hfaultless := hends.faultless b
  cases hends.follows b with
  | same _ hevents _ =>
    rw [hevents] at hk
    have hnone := hfaultless t (List.mem_of_getElem? hk)
    rw [hnone] at ht
    cases ht
  | cut hr hcut =>
    obtain ⟨before, t', after, hfull, hes⟩ := hcut
    rw [hfull] at hfaultless ⊢
    rw [hes] at hk ⊢
    -- what stands before the transaction that was struck shows no fault
    rcases Nat.lt_or_ge k before.length with hlt | hge
    · rw [List.getElem?_append_left hlt] at hk
      have hnone := hfaultless t (List.mem_append_left _ (List.mem_of_getElem? hk))
      rw [hnone] at ht
      cases ht
    · obtain ⟨hlast, -⟩ := List.getElem?_eq_some_iff.1 hk
      rw [List.length_append, List.length_singleton] at hlast
      obtain rfl : k = before.length := by omega
      rw [List.getElem?_concat_length] at hk
      cases hk
      cases ht
      exact ⟨hr, by simp, t', by simp, by simp⟩

theorem read_struck (hmax : 0 < f.maxTransfer) {buffer : List UInt8} {k : Nat} {t : Transaction}
    {code : UInt8} (hok : (f.read offset buffer b.quiet).value.result = .ok ())
    (hk : (f.read offset buffer b).events[k]? = some (.transaction t))
    (ht : t.fault = some code) : f.StruckAt f.maxTransfer k code offset buffer b := by
  obtain ⟨hresult, hcount, hevents⟩ := cutShort_of_fault hk ht
  cases read_ends_or_struck (b := b) hok with
  | ends hvalue =>
    rw [hvalue, hok] at hresult
    cases hresult
  | @struck before left size hsizes hlen hbuffer =>
    obtain rfl : before.length = k := by omega
    obtain ⟨hlt, hsum, hsize⟩ := eq_of_chunkSizes_eq hmax hsizes
    have hfull := (f.read_leaves offset buffer b.quiet).1
    have hnext := Nat.add_one_mul before.length f.maxTransfer
    rw [hsum, hsize] at hbuffer
    refine ⟨hresult, (f.read_within offset buffer).events b, hcount, hevents,
      (f.read_leaves offset buffer b).1, fun i hi => ?_, fun i hi hi' => ?_, fun i hi => ?_⟩
    · rw [hbuffer, getElem?_cutBuffer_done (by omega) hi]
    · rw [hbuffer, getElem?_cutBuffer_zero (by omega) hi (by omega)]
    · rcases Nat.lt_or_ge i buffer.length with hin | hout
      · rw [hbuffer, getElem?_cutBuffer_old (by omega) (by omega)]
      · have hnone := (f.read_leaves offset buffer b).1
        rw [List.getElem?_eq_none (by omega), List.getElem?_eq_none hout]

end Flash

/-- A fault that strikes the `k`-th fast read of an identified device is reported and ends the read
there. The chunks before it arrived, it left zeros, and the rest of the buffer is as it was. -/
theorem struckRead_leaves {build : Build} {config : Config} {b₀ b : Board} {f : Flash}
    (hprobe : (Flash.probe build config b₀).value = .ok f) {offset : UInt32} {buffer : List UInt8}
    (hok : (f.read offset buffer b.quiet).value.result = .ok ()) {k : Nat} {t : Transaction}
    {code : UInt8} (hk : (f.read offset buffer b).events[k]? = some (.transaction t))
    (ht : t.fault = some code) :
    f.StruckAt (max config.maxTransfer 1) k code offset buffer b := by
  have hmax := ((Flash.probe_known build config).value_of_ok hprobe).maxTransfer
  rw [← hmax]
  exact Flash.read_struck (by omega) hok hk ht

/-- The AT45DB161D on a board whose bus fails in the second fast read and in all later ones. -/
def Board.struckAt45db161d : Board :=
  { Board.at45db161d with faults := [⟨Opcode.fastRead.byte, 1, none, 7, 0⟩] }

/-- Of 26 bytes in chunks of 10, the second chunk, across the end of the first page, is struck. -/
theorem struckRead_leaves_at45db161d :
    let f := { Flash.at45db161d with maxTransfer := 10 }
    (Flash.probe .standard { Config.standard with maxTransfer := 10 } .struckAt45db161d).value =
      .ok f ∧
    (f.read 512 (List.replicate 26 0x5A) Board.struckAt45db161d.quiet).value.result = .ok () ∧
    (f.read 512 (List.replicate 26 0x5A) .struckAt45db161d).events[1]? =
      some (.struck [0x0B, 0x00, 0x02, 0x0A, 0x00] 10 7) ∧
    f.StruckAt 10 1 7 512 (List.replicate 26 0x5A) .struckAt45db161d := by
  intro f
  have hprobe : (Flash.probe .standard { Config.standard with maxTransfer := 10 }
      .struckAt45db161d).value = .ok f := Run.eq_ok_of_toOption (by decide +kernel)
  have hok : (f.read 512 (List.replicate 26 0x5A) Board.struckAt45db161d.quiet).value.result =
      .ok () := Run.eq_ok_of_toOption (by decide +kernel)
  have hstruck : (f.read 512 (List.replicate 26 0x5A) .struckAt45db161d).events[1]? =
      some (.struck [0x0B, 0x00, 0x02, 0x0A, 0x00] 10 7) := by
    decide +kernel
  exact ⟨hprobe, hok, hstruck, struckRead_leaves hprobe hok hstruck rfl⟩

end FlashBoot
