import FlashBoot.Proofs.Flash.Overwrite
import FlashBoot.Proofs.Flash.Read
import FlashBoot.Proofs.Trace.Kinds

/-!
# The ways a read goes

A chunk is refused, struck by a fault, or it arrives and the next chunk follows it
(`Geometry.ReadsChunks`). A read is refused as a whole, or it goes chunk by chunk
(`Geometry.Reads`). These relations tell how a read ends and what it leaves in the trace, and
nothing of what its buffer held.

`Flash.read_inStep`: every read goes one of these ways, within its scope
(`Drive.Scope.reading`), and two reads into buffers of one length go the same way and write the
same. What is known of all reads is known by cases of the way: what they send and how they fail
(`Flash.read_within`), and that the first fault ends them (`Flash.read_endsAtFault`).
-/

namespace FlashBoot

/-! ## Chunks -/

namespace Geometry

variable {g : Geometry} {x : UInt32} {n k : Nat} {e : Failure} {r : Except Failure Unit}
  {s t : Trace}

/-- A chunk at this offset is refused, by a trap of the translation or for an address that the
address bytes cannot carry. -/
inductive Refuses (g : Geometry) (x : UInt32) : Failure → Prop
  | trapped {trap : Trap} : Address.ofOffset g x = .error trap → Refuses g x (.trap trap)
  | unreachable {a : Address} : Address.ofOffset g x = .ok a → a.fits g = false →
      Refuses g x (.error .outOfBounds)

theorem Refuses.not_carries (h : g.Refuses x e) : ¬ g.Carries x := by
  intro hcarries
  obtain ⟨address, haddress, hfits⟩ := hcarries
  cases h with
  | trapped htrap => cases htrap.symm.trans haddress
  | unreachable hother hnot =>
    obtain rfl := Except.ok.inj (hother.symm.trans haddress)
    cases hnot.symm.trans hfits

/-- How reading `n` bytes from the flat offset `x` on, chunk by chunk, ends, and what it leaves. -/
inductive ReadsChunks (g : Geometry) : UInt32 → Nat → Except Failure Unit → Trace → Prop
  | done (x : UInt32) : ReadsChunks g x 0 (.ok ()) []
  | refused {x : UInt32} {n : Nat} {e : Failure} (pos : 0 < n) (refuses : g.Refuses x e) :
      ReadsChunks g x n (.error e) []
  | struck {x : UInt32} {n k : Nat} {a : Address} {code : UInt8} (pos : 0 < k) (le : k ≤ n)
      (translated : Address.ofOffset g x = .ok a) (fits : a.fits g = true) :
      ReadsChunks g x n (.error (.error (.bus code)))
        [.event (.struck (g.fastRead a.value.toNat) k code), .message (.chunkFailed x)]
  | arrived {x : UInt32} {n k : Nat} {a : Address} {r : Except Failure Unit} {t : Trace}
      (pos : 0 < k) (translated : Address.ofOffset g x = .ok a) (fits : a.fits g = true)
      (rest : ReadsChunks g (x + .ofNat k) n r t) :
      ReadsChunks g x (k + n) r (.event (.fetched (g.fastRead a.value.toNat) k) ::
        .message (.chunkRead x a.value k) :: t)

namespace ReadsChunks

/-- Behind chunks that arrived. -/
theorem append (hs : g.ReadsChunks x n (.ok ()) s) (ht : g.ReadsChunks (x + .ofNat n) k r t) :
    g.ReadsChunks x (n + k) r (s ++ t) := by
  generalize hok : Except.ok () = result at hs
  induction hs with
  | done x => simpa using ht
  | refused _ _ => cases hok
  | struck _ _ _ _ => cases hok
  | arrived hpos htranslated hfits _ ih =>
    rw [UInt32.ofNat_add, ← UInt32.add_assoc] at ht
    rw [Nat.add_assoc]
    exact .arrived hpos htranslated hfits (ih ht hok)

/-- A failure is the end of a longer read as well. -/
theorem of_le (h : g.ReadsChunks x n (.error e) t) (hle : n ≤ k) :
    g.ReadsChunks x k (.error e) t := by
  generalize herror : Except.error e = result at h
  induction h generalizing k with
  | done x => cases herror
  | refused hpos hrefuses => exact .refused (by omega) hrefuses
  | struck hpos hle' htranslated hfits => exact .struck hpos (by omega) htranslated hfits
  | @arrived x n size a r t hpos htranslated hfits _ ih =>
    have hrest := ih (show n ≤ k - size by omega) herror
    have hsum : size + (k - size) = k := by omega
    exact hsum ▸ .arrived hpos htranslated hfits hrest

end ReadsChunks

/-- How reading `n` bytes from the flat offset `x` on ends, and what it leaves. -/
inductive Reads (g : Geometry) (x : UInt32) (n : Nat) : Except Failure Unit → Trace → Prop
  /-- It ends above the flat offsets. -/
  | beyond (pos : 0 < n) (lt : 2 ^ 32 < x.toNat + n) : Reads g x n (.error (.error .outOfBounds)) []
  /-- Its last byte has no address. -/
  | trapped {trap : Trap} (pos : 0 < n)
      (last : Address.ofOffset g (x + .ofNat (n - 1)) = .error trap) :
      Reads g x n (.error (.trap trap)) []
  /-- Its last byte is out of reach. -/
  | unreachable (pos : 0 < n) (word : x.toNat + n ≤ 2 ^ 32)
      (last : ¬ g.Carries (x + .ofNat (n - 1))) :
      Reads g x n (.error (.error .outOfBounds)) [.message (.notAddressable (x + .ofNat (n - 1)))]
  /-- It goes chunk by chunk. -/
  | chunks {r : Except Failure Unit} {t : Trace}
      (word : 0 < n → x.toNat + n ≤ 2 ^ 32) (last : 0 < n → g.Carries (x + .ofNat (n - 1)))
      (chunks : g.ReadsChunks x n r t) : Reads g x n r t

end Geometry

/-! ## The scope of reading -/

namespace Flash

/-- A fast read from an address in reach, in the framing of a geometry. -/
def ReadEvent (g : Geometry) (e : Event) : Prop :=
  ∃ address < g.reach, ∃ count fault,
    e = .transaction ⟨g.fastRead address, List.replicate count 0, fault⟩

theorem ReadEvent.issues {g : Geometry} {e : Event} (h : ReadEvent g e) : e.Issues [.fastRead] := by
  obtain ⟨address, -, count, fault, rfl⟩ := h
  exact Event.issues_of_mem (List.mem_singleton_self _) rfl (fun _ => List.eq_of_mem_replicate)
    fault

/-- A read is refused out of bounds, or by a trap of the translation. -/
def Refusal (g : Geometry) (e : Failure) : Prop :=
  e = .error .outOfBounds ∨ ∃ t, e = .trap t ∧ g.Traps t

/-- A read fails by the bus, out of bounds, or by a trap of the translation. -/
def ReadFailure (g : Geometry) (e : Failure) : Prop :=
  e.IsBus ∨ e = .error .outOfBounds ∨ ∃ t, e = .trap t ∧ g.Traps t

/-- A transfer that ended well, or failed like a read. -/
def ReadTransfer (g : Geometry) (t : Transfer) : Prop :=
  ∀ e, t.result = .error e → ReadFailure g e

end Flash

theorem Geometry.Refuses.refusal {g : Geometry} {x : UInt32} {e : Failure} (h : g.Refuses x e) :
    Flash.Refusal g e := by
  cases h with
  | trapped htrap => exact .inr ⟨_, rfl, x, htrap⟩
  | unreachable _ _ => exact .inl rfl

/-- What a read does, logs and reports but for the bus. -/
def Drive.Scope.reading (g : Geometry) : Drive.Scope where
  does := Flash.ReadEvent g
  tells m := m.isOfReading = true
  fails := Flash.Refusal g

theorem Drive.Scope.not_fails_reading (g : Geometry) (code : UInt8) :
    ¬ (reading g).fails (.error (.bus code)) := by
  rintro (h | ⟨t, h, -⟩) <;> cases h

/-! ## Following a read -/

/-- A transfer fails in one way only. -/
theorem Transfer.Fails.eq {t : Transfer} {e e' : Failure} (h : t.Fails e) (h' : t.Fails e') :
    e' = e :=
  Except.error.inj (h'.symm.trans h)

namespace Flash

variable {f : Flash} {offset : UInt32} {chunk chunk' buffer buffer' : List UInt8}

/-- A chunk is refused, or it is one fast read from an address in reach. -/
theorem readChunk_cases (f : Flash) (offset : UInt32) :
    (∃ e, f.geometry.Refuses offset e ∧
      ∀ chunk, f.readChunk offset chunk = pure ⟨.error e, chunk⟩) ∨
    ∃ address : Address, Address.ofOffset f.geometry offset = .ok address ∧
      address.fits f.geometry = true ∧ ∀ chunk, f.readChunk offset chunk = (do
        let transfer ← Bus.read (f.geometry.fastRead address.value.toNat) chunk
        Drive.log (chunkMessage offset address chunk.length transfer.result)
        return transfer) := by
  cases ha : Address.ofOffset f.geometry offset with
  | error trap =>
    refine .inl ⟨.trap trap, .trapped ha, fun chunk => ?_⟩
    simp only [readChunk, ha]
  | ok address =>
    cases hfits : address.fits f.geometry with
    | false => exact .inl ⟨_, .unreachable ha hfits, readChunk_of_not_fits ha hfits⟩
    | true => exact .inr ⟨address, rfl, hfits, readChunk_of_fits ha hfits⟩

/-- A read is refused, with a message at most, or it is the reads of its chunks. -/
theorem read_cases (f : Flash) (offset : UInt32) (n : Nat) :
    (∃ e, f.geometry.Reads offset n (.error e) [] ∧ Refusal f.geometry e ∧
      ∀ buffer, buffer.length = n → f.read offset buffer = pure ⟨.error e, buffer⟩) ∨
    (f.geometry.Reads offset n (.error (.error .outOfBounds))
        [.message (.notAddressable (offset + .ofNat (n - 1)))] ∧
      ∀ buffer, buffer.length = n → f.read offset buffer = (do
        Drive.log (.notAddressable (offset + .ofNat (n - 1)))
        return ⟨.error (.error .outOfBounds), buffer⟩)) ∨
    ((∀ r t, f.geometry.ReadsChunks offset n r t → f.geometry.Reads offset n r t) ∧
      ∀ buffer, buffer.length = n →
        f.read offset buffer = f.readChunks (chunkSizes n f.maxTransfer) offset buffer) := by
  rcases Nat.eq_zero_or_pos n with rfl | hpos
  · refine .inr (.inr ⟨fun r t h => .chunks nofun nofun h, fun buffer hlen => ?_⟩)
    obtain rfl := List.eq_nil_of_length_eq_zero hlen
    have hnone : chunkSizes 0 f.maxTransfer = [] := by simp [chunkSizes]
    rw [hnone]
    rfl
  have hne : ∀ buffer : List UInt8, buffer.length = n → buffer ≠ [] := by
    intro buffer hlen hnil
    subst hnil
    exact absurd hlen (Nat.ne_of_lt hpos)
  by_cases hword : 2 ^ 32 < offset.toNat + n
  · refine .inl ⟨_, .beyond hpos hword, .inl rfl, fun buffer hlen => ?_⟩
    simp only [read, List.isEmpty_iff, hne buffer hlen, hlen, size_eq, hword, ↓reduceIte]
  cases ha : Address.ofOffset f.geometry (offset + .ofNat (n - 1)) with
  | error trap =>
    refine .inl ⟨_, .trapped hpos ha, .inr ⟨trap, rfl, _, ha⟩, fun buffer hlen => ?_⟩
    simp only [read, List.isEmpty_iff, hne buffer hlen, hlen, size_eq, hword, ↓reduceIte, ha]
  | ok address =>
    cases hfits : address.fits f.geometry with
    | true =>
      refine .inr (.inr ⟨fun r t h => ?_, fun buffer hlen => ?_⟩)
      · exact .chunks (fun _ => by omega) (fun _ => ⟨address, ha, hfits⟩) h
      · rw [read_eq (hne buffer hlen) (hlen ▸ ha), hlen, if_neg hword, if_pos hfits]
    | false =>
      have hlast : ¬ f.geometry.Carries (offset + .ofNat (n - 1)) :=
        (Geometry.Refuses.unreachable ha hfits).not_carries
      refine .inr (.inl ⟨.unreachable hpos (by omega) hlast, fun buffer hlen => ?_⟩)
      rw [read_eq (hne buffer hlen) (hlen ▸ ha), hlen, if_neg hword, if_neg (by simp [hfits])]

theorem readChunk_inStep (f : Flash) (offset : UInt32) (hchunk : chunk ≠ [])
    (hlen : chunk.length = chunk'.length) :
    Drive.InStep (.reading f.geometry) Transfer.Fails (fun t t' trace =>
        SameTransfer chunk chunk' t t' ∧
          f.geometry.ReadsChunks offset chunk.length t.result trace)
      (f.readChunk offset chunk) (f.readChunk offset chunk') := by
  have hpos := List.length_pos_iff.2 hchunk
  obtain ⟨e, he, heq⟩ | ⟨address, haddress, hfits, heq⟩ := f.readChunk_cases offset
  · rw [heq, heq]
    refine .pure (fun e' he' => ?_) ⟨.untouched _ _, .refused hpos he⟩
    exact Except.error.inj he' ▸ he.refusal
  rw [heq, heq, ← hlen]
  -- the reply settles both how the transaction ended and what is logged behind it
  have hread := Bus.read_inStep (f.geometry.fastRead_ne_nil address.value.toNat) hchunk hlen
    (s := .reading f.geometry) (R := fun t t' trace => SameTransfer chunk chunk' t t' ∧
      f.geometry.ReadsChunks offset chunk.length t.result
        (trace ++ [.message (chunkMessage offset address chunk.length t.result)]))
    (fun fault => ⟨_, fits_iff.1 hfits, _, fault, rfl⟩) (fun response hr => ?_) fun code => ?_
  · refine hread.bind_of_settled (fun _ _ _ he he' => he.eq he') fun t t' trace ⟨hsame, hway⟩ => ?_
    have htells : (chunkMessage offset address chunk.length t.result).isOfReading = true := by
      cases t.result <;> rfl
    rw [← hsame.result]
    exact .log_bind htells (.pure (fun _ he => he) ⟨fun _ he => he, hsame, hway⟩)
  · exact ⟨⟨rfl, .of_eq hr (hr.trans hlen), fun _ => rfl⟩,
      .arrived (n := 0) hpos haddress hfits (.done _)⟩
  · have hzeros : (List.replicate chunk.length (0 : UInt8)).length = chunk.length :=
      List.length_replicate
    exact ⟨⟨rfl, .of_eq hzeros (hzeros.trans hlen), nofun⟩,
      .struck hpos (Nat.le_refl _) haddress hfits⟩

theorem readChunks_inStep {sizes : List Nat} (offset : UInt32) (hfills : Fills sizes buffer)
    (hlen : buffer.length = buffer'.length) :
    Drive.InStep (.reading f.geometry) Transfer.Fails (fun t t' trace =>
        SameTransfer buffer buffer' t t' ∧
          f.geometry.ReadsChunks offset buffer.length t.result trace)
      (f.readChunks sizes offset buffer) (f.readChunks sizes offset buffer') := by
  induction sizes generalizing offset buffer buffer' with
  | nil =>
    obtain rfl := List.eq_nil_of_length_eq_zero hfills.sum.symm
    obtain rfl := List.eq_nil_of_length_eq_zero hlen.symm
    exact .pure nofun ⟨⟨rfl, .refl _ _, fun _ => rfl⟩, .done _⟩
  | cons size sizes ih =>
    have hdrop := hfills.length_drop
    have htake : (buffer.take size).length = (buffer'.take size).length := by
      rw [List.length_take, List.length_take, hlen]
    have hdrop' : (buffer.drop size).length = (buffer'.drop size).length := by
      rw [List.length_drop, List.length_drop, hlen]
    apply Drive.InStep.bind (readChunk_inStep f offset hfills.take_ne_nil htake)
    · intro first first' trace h hnot
      obtain ⟨hfirst, hway⟩ := h
      rw [hfills.length_take] at hway
      rw [← hfirst.result]
      cases hr : first.result with
      | error e => exact absurd hr (hnot e)
      | ok _ =>
        rw [hr] at hway
        refine .map ((ih _ hfills.drop hdrop').mono fun rest rest' trace' ⟨hrest, hway'⟩ => ?_)
          (fun _ _ => Iff.rfl) fun _ _ _ he he' => he.eq he'
        refine ⟨⟨hrest.result, .front hlen hfirst.writes hrest.writes, fun hok => ?_⟩, ?_⟩
        · exact congrArg₂ _ (hfirst.filled hr) (hrest.filled hok)
        · exact hdrop ▸ hway.append hway'
    · -- what is behind a chunk that failed stays as it was, in both buffers
      intro first first' trace e h he
      obtain ⟨hfirst, hway⟩ := h
      rw [hfills.length_take] at hway
      rw [← hfirst.result, he]
      rw [he] at hway
      refine .pure (fun _ he' => (Except.error.inj he').symm) ⟨rfl, ⟨rfl, ?_, nofun⟩, ?_⟩
      · exact .front hlen hfirst.writes (.refl _ _)
      · rw [List.append_nil]
        exact hway.of_le (by omega)

/-- Every read goes one of its ways, and a read into another buffer of the same length goes the
same way. -/
theorem read_inStep (f : Flash) (offset : UInt32) (hlen : buffer.length = buffer'.length) :
    Drive.InStep (.reading f.geometry) Transfer.Fails (fun t t' trace =>
        SameTransfer buffer buffer' t t' ∧ f.geometry.Reads offset buffer.length t.result trace)
      (f.read offset buffer) (f.read offset buffer') := by
  obtain ⟨e, hway, he, heq⟩ | ⟨hway, heq⟩ | ⟨hway, heq⟩ := f.read_cases offset buffer.length
  · rw [heq buffer rfl, heq buffer' hlen.symm]
    exact .pure (fun _ he' => Except.error.inj he' ▸ he) ⟨.untouched _ _, hway⟩
  · rw [heq buffer rfl, heq buffer' hlen.symm]
    exact .log_bind rfl (.pure (fun _ he' => .inl (Except.error.inj he').symm)
      ⟨.untouched _ _, hway⟩)
  · rw [heq buffer rfl, heq buffer' hlen.symm]
    exact (readChunks_inStep offset (fills_chunkSizes buffer f.maxTransfer) hlen).mono
      fun t t' trace h => ⟨h.1, hway _ _ h.2⟩

/-! ## What is known of every read -/

/-- What is known of the way is known of the read, and the buffer keeps its length. -/
theorem read_leaves (f : Flash) (offset : UInt32) (buffer : List UInt8) :
    (f.read offset buffer).Leaves fun t trace => t.buffer.length = buffer.length ∧
      f.geometry.Reads offset buffer.length t.result trace :=
  (f.read_inStep offset (Eq.refl buffer.length)).leaves.mono
    fun _ _ ⟨_, hsame, hway⟩ => ⟨hsame.writes.length, hway⟩

theorem read_within (f : Flash) (offset : UInt32) (buffer : List UInt8) :
    Drive.Within (ReadEvent f.geometry) (ReadTransfer f.geometry) (f.read offset buffer) :=
  (f.read_inStep offset (Eq.refl buffer.length)).within

theorem read_endsAtFault (f : Flash) (offset : UInt32) (buffer : List UInt8) :
    Drive.EndsAtFault (fun t => Run.Reports t.result) (f.read offset buffer) :=
  (f.read_inStep offset (Eq.refl buffer.length)).endsAtFault (Drive.Scope.not_fails_reading _)

end Flash

end FlashBoot
