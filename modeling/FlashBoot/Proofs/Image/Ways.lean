import FlashBoot.Image.Request
import FlashBoot.Proofs.Flash.Ways

/-!
# The ways an image is loaded

The ways of two loads that do the same: a copy is refused, fails on its way or is complete
(`Geometry.Copies`), the page with the header is missing, fails or tells a length or none
(`Geometry.Finds`), and a load is a copy, or a page and then a copy (`Geometry.Loads`). The requests
may hold different memory, of which nothing shows in the trace.

`Flash.loadImage_inStep`: every load goes one of these ways, within its scope
(`Drive.Scope.loading`). A load of one request is one of two requests that are the same.
-/

namespace FlashBoot

/-! ## Requests -/

namespace Request

/-- The requests differ in nothing but what their destinations hold. -/
structure Alike (r r' : Request) : Prop where
  kind : r.kind = r'.kind
  offset : r.offset = r'.offset
  length : r.length = r'.length
  room : r.destination.length = r'.destination.length

theorem Alike.refl (r : Request) : r.Alike r := ⟨rfl, rfl, rfl, rfl⟩

/-- Alike requests are alike afterwards, and the same bytes were written into their destinations. -/
structure SameLoads (r r' d d' : Request) : Prop where
  alike : d.Alike d'
  writes : SameWrites r.destination r'.destination d.destination d'.destination

/-- The request with these bytes written over the first `n` bytes of its destination. -/
def written (n : Nat) (bytes : List UInt8) (r : Request) : Request :=
  { r with destination := bytes ++ r.destination.drop n }

/-- The request once its image of length `n` was copied, with these bytes. -/
def completed (n : UInt32) (bytes : List UInt8) (r : Request) : Request :=
  { r with destination := bytes ++ r.destination.drop n.toNat, length := some n }

variable {r r' m m' d d' : Request} {n : Nat} {bytes bytes' : List UInt8}

theorem SameLoads.refl (h : r.Alike r') : SameLoads r r' r r' :=
  ⟨h, .refl _ _⟩

theorem SameLoads.trans (h : SameLoads r r' m m') (h' : SameLoads m m' d d') :
    SameLoads r r' d d' :=
  ⟨h'.alike, h.writes.trans h'.writes⟩

theorem Alike.written (h : r.Alike r')
    (hwrites : SameWrites (r.destination.take n) (r'.destination.take n) bytes bytes') :
    SameLoads r r' (r.written n bytes) (r'.written n bytes') := by
  have hfront := SameWrites.front h.room hwrites (.refl _ _)
  exact ⟨⟨h.kind, h.offset, h.length, hfront.length_eq h.room⟩, hfront⟩

/-- Copying the same bytes makes the lengths alike. -/
theorem Alike.completed {n : UInt32} (h : r.Alike r') (hroom : n.toNat ≤ r.destination.length)
    (hbytes : bytes.length = n.toNat) :
    SameLoads r r' (r.completed n bytes) (r'.completed n bytes) := by
  have hroom' : n.toNat ≤ r'.destination.length := h.room ▸ hroom
  have hwrites : SameWrites (r.destination.take n.toNat) (r'.destination.take n.toNat) bytes
      bytes :=
    .of_eq (by rw [List.length_take_of_le hroom, hbytes])
      (by rw [List.length_take_of_le hroom', hbytes])
  obtain ⟨halike, hsame⟩ := h.written hwrites
  exact ⟨⟨halike.kind, halike.offset, rfl, halike.room⟩, hsame⟩

end Request

/-- Deliveries of two requests that end alike. -/
structure SameDelivery (r r' : Request) (d d' : Delivery) : Prop where
  result : d.result = d'.result
  request : r.SameLoads r' d.request d'.request

/-- The delivery failed in this way. -/
def Delivery.Fails (d : Delivery) (e : Failure) : Prop := d.result = .error e

/-! ## The ways -/

namespace Geometry

/-- How an image of length `n` is copied for two requests with the same offset and room. -/
inductive Copies (g : Geometry) (n : UInt32) (r r' : Request) : Delivery → Delivery → Trace → Prop
  | refused (unfit : ¬ (0 < n.toNat ∧ n.toNat ≤ r.destination.length)) :
      Copies g n r r' ⟨.error (.error .length), r⟩ ⟨.error (.error .length), r'⟩
        [.message (.imageDoesNotFit n)]
  | copied {bytes : List UInt8} {t : Trace} (pos : 0 < n.toNat)
      (room : n.toNat ≤ r.destination.length) (length : bytes.length = n.toNat)
      (reads : g.Reads r.offset n.toNat (.ok ()) t) :
      Copies g n r r' ⟨.ok n, r.completed n bytes⟩ ⟨.ok n, r'.completed n bytes⟩
        (.message (.copying n r.offset) :: t)
  | failed {e : Failure} {bytes bytes' : List UInt8} {t : Trace} (pos : 0 < n.toNat)
      (room : n.toNat ≤ r.destination.length)
      (writes : SameWrites (r.destination.take n.toNat) (r'.destination.take n.toNat) bytes bytes')
      (reads : g.Reads r.offset n.toNat (.error e) t) :
      Copies g n r r' ⟨.error e, r.written n.toNat bytes⟩ ⟨.error e, r'.written n.toNat bytes'⟩
        (.message (.copying n r.offset) :: (t ++
          if e.isTrap then [] else [.message .copyFailed]))

/-- How the length of an image is looked for, for two requests that are alike. -/
inductive Finds (g : Geometry) (headers : HeaderParser) (r r' : Request) :
    Delivery → Delivery → Trace → Prop
  | short (lt : r.destination.length < g.pageSize.toNat) :
      Finds g headers r r' ⟨.error (.error .length), r⟩ ⟨.error (.error .length), r'⟩ []
  | failed {e : Failure} {bytes bytes' : List UInt8} {t : Trace}
      (room : g.pageSize.toNat ≤ r.destination.length)
      (writes : SameWrites (r.destination.take g.pageSize.toNat)
        (r'.destination.take g.pageSize.toNat) bytes bytes')
      (reads : g.Reads r.offset g.pageSize.toNat (.error e) t) :
      Finds g headers r r' ⟨.error e, r.written g.pageSize.toNat bytes⟩
        ⟨.error e, r'.written g.pageSize.toNat bytes'⟩ t
  | found {n : UInt32} {bytes : List UInt8} {t : Trace}
      (room : g.pageSize.toNat ≤ r.destination.length) (length : bytes.length = g.pageSize.toNat)
      (reads : g.Reads r.offset g.pageSize.toNat (.ok ()) t)
      (header : headers r.kind bytes = some n) :
      Finds g headers r r' ⟨.ok n, r.written g.pageSize.toNat bytes⟩
        ⟨.ok n, r'.written g.pageSize.toNat bytes⟩ (t ++ [.event (.header r.kind bytes)])
  | invalid {bytes : List UInt8} {t : Trace} (room : g.pageSize.toNat ≤ r.destination.length)
      (length : bytes.length = g.pageSize.toNat)
      (reads : g.Reads r.offset g.pageSize.toNat (.ok ()) t)
      (header : headers r.kind bytes = none) :
      Finds g headers r r' ⟨.error (.error .length), r.written g.pageSize.toNat bytes⟩
        ⟨.error (.error .length), r'.written g.pageSize.toNat bytes⟩
        (t ++ [.event (.header r.kind bytes), .message (.invalidHeader r.kind r.offset)])

/-- How an image is loaded, for two requests that are alike. -/
inductive Loads (g : Geometry) (headers : HeaderParser) (r r' : Request) :
    Delivery → Delivery → Trace → Prop
  | given {n : UInt32} {d d' : Delivery} {t : Trace} (length : r.length = some n)
      (copies : g.Copies n r r' d d' t) : Loads g headers r r' d d' t
  | unfound {e : Failure} {m m' : Request} {t : Trace} (length : r.length = none)
      (finds : g.Finds headers r r' ⟨.error e, m⟩ ⟨.error e, m'⟩ t) :
      Loads g headers r r' ⟨.error e, m⟩ ⟨.error e, m'⟩ t
  | found {n : UInt32} {m m' : Request} {d d' : Delivery} {s t : Trace} (length : r.length = none)
      (finds : g.Finds headers r r' ⟨.ok n, m⟩ ⟨.ok n, m'⟩ s) (copies : g.Copies n m m' d d' t) :
      Loads g headers r r' d d' (s ++ t)

variable {g : Geometry} {headers : HeaderParser} {r r' : Request} {d d' : Delivery} {n : UInt32}
  {t : Trace}

theorem Copies.sameDelivery (h : g.Copies n r r' d d' t) (halike : r.Alike r') :
    SameDelivery r r' d d' := by
  cases h with
  | refused _ => exact ⟨rfl, .refl halike⟩
  | copied _ hroom hlength _ => exact ⟨rfl, halike.completed hroom hlength⟩
  | failed _ _ hwrites _ => exact ⟨rfl, halike.written hwrites⟩

theorem Finds.sameDelivery (h : g.Finds headers r r' d d' t) (halike : r.Alike r') :
    SameDelivery r r' d d' := by
  have hread : ∀ bytes : List UInt8, g.pageSize.toNat ≤ r.destination.length →
      bytes.length = g.pageSize.toNat → r.SameLoads r' (r.written g.pageSize.toNat bytes)
        (r'.written g.pageSize.toNat bytes) := by
    intro bytes hroom hlength
    have hroom' : g.pageSize.toNat ≤ r'.destination.length := halike.room ▸ hroom
    exact halike.written (.of_eq (by rw [List.length_take_of_le hroom, hlength])
      (by rw [List.length_take_of_le hroom', hlength]))
  cases h with
  | short _ => exact ⟨rfl, .refl halike⟩
  | failed _ hwrites _ => exact ⟨rfl, halike.written hwrites⟩
  | found hroom hlength _ _ => exact ⟨rfl, hread _ hroom hlength⟩
  | invalid hroom hlength _ _ => exact ⟨rfl, hread _ hroom hlength⟩

theorem Loads.sameDelivery (h : g.Loads headers r r' d d' t) (halike : r.Alike r') :
    SameDelivery r r' d d' := by
  cases h with
  | given _ hcopies => exact hcopies.sameDelivery halike
  | unfound _ hfinds => exact hfinds.sameDelivery halike
  | found _ hfinds hcopies =>
    have hfound := hfinds.sameDelivery halike
    have hcopied := hcopies.sameDelivery hfound.request.alike
    exact ⟨hcopied.result, hfound.request.trans hcopied.request⟩

end Geometry

/-! ## The scope of loading -/

namespace Flash

/-- A fast read, or a call of the header parser. -/
def LoadEvent (g : Geometry) (e : Event) : Prop :=
  ReadEvent g e ∨ ∃ kind bytes, e = .header kind bytes

/-- Loading fails like a read, or by a length. -/
def LoadFailure (g : Geometry) (e : Failure) : Prop := ReadFailure g e ∨ e = .error .length

end Flash

namespace Drive.Scope

/-- What loading does, logs and reports but for the bus. -/
def loading (g : Geometry) : Scope where
  does := Flash.LoadEvent g
  tells m := m.isOfReading = true
  fails e := Flash.Refusal g e ∨ e = .error .length

theorem not_fails_loading (g : Geometry) (code : UInt8) :
    ¬ (loading g).fails (.error (.bus code)) := by
  rintro (h | h)
  · exact not_fails_reading g code h
  · cases h

theorem reading_le_loading (g : Geometry) : reading g ≤ loading g :=
  ⟨fun _ he => .inl he, fun _ hm => hm, fun _ he => .inl he⟩

end Drive.Scope

/-! ## Following a load -/

/-- A delivery fails in one way only. -/
theorem Delivery.Fails.eq {d : Delivery} {e e' : Failure} (h : d.Fails e) (h' : d.Fails e') :
    e' = e :=
  Except.error.inj (h'.symm.trans h)

namespace Flash

variable {f : Flash} {r r' : Request}

/-- Reads into the front of two destinations. -/
theorem read_take_inStep (f : Flash) (offset : UInt32) {destination destination' : List UInt8}
    {n : Nat} (hlen : destination.length = destination'.length) (hroom : n ≤ destination.length) :
    Drive.InStep (.loading f.geometry) Transfer.Fails (fun t t' trace =>
        SameTransfer (destination.take n) (destination'.take n) t t' ∧
          f.geometry.Reads offset n t.result trace)
      (f.read offset (destination.take n)) (f.read offset (destination'.take n)) := by
  have htake : (destination.take n).length = (destination'.take n).length := by
    rw [List.length_take, List.length_take, hlen]
  have hread := f.read_inStep offset htake
  rw [List.length_take_of_le hroom] at hread
  exact hread.widen (Drive.Scope.reading_le_loading f.geometry)

/-- A copy depends on nothing but the offset, the room and the length. -/
theorem copyImage_inStep (f : Flash) (n : UInt32) (hoffset : r.offset = r'.offset)
    (hlen : r.destination.length = r'.destination.length) :
    Drive.InStep (.loading f.geometry) Delivery.Fails (f.geometry.Copies n r r')
      (f.copyImage r n) (f.copyImage r' n) := by
  obtain ⟨kind', offset', destination', length'⟩ := r'
  obtain rfl : r.offset = offset' := hoffset
  unfold copyImage
  dsimp only at hlen ⊢
  rw [← hlen]
  split
  case isTrue hunfit =>
    simp only [Bool.or_eq_true, decide_eq_true_eq] at hunfit
    refine .log_bind rfl (.pure (fun _ he => .inr (Except.error.inj he).symm) (.refused ?_))
    omega
  case isFalse hfits =>
    simp only [Bool.or_eq_true, decide_eq_true_eq] at hfits
    have hpos : 0 < n.toNat := by omega
    have hroom : n.toNat ≤ r.destination.length := by omega
    refine .log_bind rfl ((f.read_take_inStep r.offset hlen hroom).bind_of_settled
      (fun _ _ _ he he' => he.eq he') fun t t' trace ⟨hsame, hreads⟩ => ?_)
    rw [← hsame.result]
    cases hr : t.result with
    | ok _ =>
      have hbytes := hsame.writes.length.trans (List.length_take_of_le hroom)
      rw [hr] at hreads
      refine .pure nofun ⟨fun e he => ?_, ?_⟩
      · cases hr.symm.trans he
      · rw [← hsame.filled hr, List.append_nil]
        exact .copied hpos hroom hbytes hreads
    | error e =>
      rw [hr] at hreads
      have hfails : ∀ (q : Request) (e' : Failure),
          Delivery.Fails ⟨.error e, q⟩ e' ↔ t.Fails e' := by
        simp [Delivery.Fails, Transfer.Fails, hr]
      have hway : f.geometry.Copies n r ⟨kind', r.offset, destination', length'⟩ _ _ _ :=
        .failed hpos hroom hsame.writes hreads
      dsimp only
      cases htrap : e.isTrap with
      | true =>
        rw [htrap] at hway
        exact .pure (fun e' => (hfails _ e').1) ⟨fun e' => (hfails _ e').2, hway⟩
      | false =>
        rw [htrap] at hway
        exact .log_bind rfl (.pure (fun e' => (hfails _ e').1) ⟨fun e' => (hfails _ e').2, hway⟩)

theorem parseHeader_inStep {s : Drive.Scope} (headers : HeaderParser) (kind : ImageKind)
    (bytes : List UInt8) (hs : s.does (.header kind bytes)) :
    Drive.InStep s (fun _ _ => False) (fun found found' t => found = headers kind bytes ∧
        found' = headers kind bytes ∧ t = [.event (.header kind bytes)])
      (parseHeader headers kind bytes) (parseHeader headers kind bytes) :=
  .bind_of_never (R := fun _ _ t => t = [.event (.header kind bytes)]) (.emit hs nofun rfl)
    fun _ _ _ ht => .pure nofun ⟨rfl, rfl, by rw [ht, List.append_nil]⟩

theorem discoverLength_inStep (f : Flash) (headers : HeaderParser) (h : r.Alike r') :
    Drive.InStep (.loading f.geometry) Delivery.Fails (f.geometry.Finds headers r r')
      (f.discoverLength headers r) (f.discoverLength headers r') := by
  obtain ⟨kind', offset', destination', length'⟩ := r'
  obtain ⟨hkind, hoffset, -, hlen⟩ := h
  obtain rfl : r.kind = kind' := hkind
  obtain rfl : r.offset = offset' := hoffset
  unfold discoverLength
  dsimp only at hlen ⊢
  rw [← hlen]
  split
  case isTrue hshort =>
    exact .pure (fun _ he => .inr (Except.error.inj he).symm) (.short hshort)
  case isFalse hroom =>
    rw [Nat.not_lt] at hroom
    apply Drive.InStep.bind (f.read_take_inStep r.offset hlen hroom)
    · intro t t' trace h hnot
      obtain ⟨hsame, hreads⟩ := h
      rw [← hsame.result]
      cases hr : t.result with
      | error e => exact absurd hr (hnot e)
      | ok _ =>
        have hbytes := hsame.writes.length.trans (List.length_take_of_le hroom)
        rw [hr] at hreads
        -- the parser is asked about a page that was read completely
        rw [← hsame.filled hr]
        refine .bind_of_never (parseHeader_inStep headers r.kind t.buffer (.inr ⟨_, _, rfl⟩)) ?_
        intro found found' trace' h
        obtain ⟨rfl, rfl, rfl⟩ := h
        cases hheader : headers r.kind t.buffer with
        | some n =>
          refine .pure nofun ?_
          rw [List.append_nil]
          exact .found hroom hbytes hreads hheader
        | none =>
          have hway : f.geometry.Finds headers r ⟨r.kind, r.offset, destination', length'⟩ _ _ _ :=
            .invalid hroom hbytes hreads hheader
          exact .log_bind rfl (.pure (fun _ he => .inr (Except.error.inj he).symm) hway)
    · intro t t' trace e h he
      obtain ⟨hsame, hreads⟩ := h
      rw [← hsame.result, he]
      rw [he] at hreads
      refine .pure (fun _ he' => (Except.error.inj he').symm) ⟨rfl, ?_⟩
      rw [List.append_nil]
      exact .failed hroom hsame.writes hreads

/-- Every image is loaded in one of these ways, and for a request that is alike in the same way. -/
theorem loadImage_inStep (f : Flash) (headers : HeaderParser) (h : r.Alike r') :
    Drive.InStep (.loading f.geometry) Delivery.Fails (f.geometry.Loads headers r r')
      (f.loadImage headers r) (f.loadImage headers r') := by
  unfold loadImage
  rw [← h.length]
  cases hlength : r.length with
  | some n => exact (f.copyImage_inStep n h.offset h.room).mono fun _ _ _ => .given hlength
  | none =>
    apply Drive.InStep.bind (f.discoverLength_inStep headers h)
    · intro found found' s hfinds hnot
      obtain ⟨result, m⟩ := found
      obtain ⟨result', m'⟩ := found'
      obtain ⟨hresult, hrequest⟩ := hfinds.sameDelivery h
      obtain rfl : result = result' := hresult
      cases result with
      | error e => exact absurd rfl (hnot e)
      | ok n =>
        exact (f.copyImage_inStep n hrequest.alike.offset hrequest.alike.room).mono
          fun _ _ _ => .found hlength hfinds
    · intro found found' s e hfinds he
      obtain ⟨result, m⟩ := found
      obtain ⟨result', m'⟩ := found'
      obtain rfl : result = result' := (hfinds.sameDelivery h).result
      obtain rfl : result = .error e := he
      refine .pure (fun _ he' => (Except.error.inj he').symm) ⟨rfl, ?_⟩
      rw [List.append_nil]
      exact .unfound hlength hfinds

/-! ## What is known of every load -/

/-- What is known of the way is known of the load. -/
theorem loadImage_leaves (f : Flash) (headers : HeaderParser) (r : Request) :
    (f.loadImage headers r).Leaves fun d t => ∃ d', f.geometry.Loads headers r r d d' t :=
  (f.loadImage_inStep headers (.refl r)).leaves

end Flash

end FlashBoot
