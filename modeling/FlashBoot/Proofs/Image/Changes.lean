import FlashBoot.Proofs.Flash.Arrivals
import FlashBoot.Proofs.Image.Ways

/-!
# What loading an image changes

The destination of a request also holds the first page while the length is looked for, and the
length is kept in the request once it is known. `Flash.loadImage_changes`: whatever the board does,
the request learns a length only when all bytes of the image arrived, and nothing is written behind
both the page and the image (`Request.Changes`). All of it is read off the ways of a load.
-/

namespace FlashBoot

/-- From one request to the other nothing was changed but the first `limit` bytes of the
destination, and perhaps the length. -/
structure Request.Writes (limit : Nat) (r after : Request) : Prop where
  kind : after.kind = r.kind
  offset : after.offset = r.offset
  room : after.destination.length = r.destination.length
  beyond : ∀ i, limit ≤ i → after.destination[i]? = r.destination[i]?

namespace Request.Writes

variable {r mid after : Request} {n m : Nat}

theorem refl (n : Nat) (r : Request) : r.Writes n r := ⟨rfl, rfl, rfl, fun _ _ => rfl⟩

theorem trans (h : r.Writes n mid) (h' : mid.Writes m after) : r.Writes (max n m) after :=
  ⟨h'.kind.trans h.kind, h'.offset.trans h.offset, h'.room.trans h.room, fun i hi =>
    (h'.beyond i (by omega)).trans (h.beyond i (by omega))⟩

/-- Bytes written over the front of the destination. -/
theorem front {bytes : List UInt8} (hlen : bytes.length = n) (hroom : n ≤ r.destination.length)
    (length : Option UInt32) :
    r.Writes n { r with destination := bytes ++ r.destination.drop n, length } := by
  refine ⟨rfl, rfl, ?_, fun i hi => ?_⟩
  · rw [List.length_append, List.length_drop]
    omega
  · rw [List.getElem?_append_right (by omega), List.getElem?_drop]
    congr 1
    omega

end Request.Writes

/-! ## The length -/

/-- The length of the image is `n`: it is given, or the header parser found it. -/
def Request.Resolved (headers : HeaderParser) (calls : List (ImageKind × List UInt8)) (r : Request)
    (n : UInt32) : Prop :=
  r.length = some n ∨
    r.length = none ∧ ∃ header, (r.kind, header) ∈ calls ∧ headers r.kind header = some n

/-- What a load may change in its request, when pages have `page` bytes: told from the calls of the
header parser, the number of bytes that arrived and the length of the image if it was loaded. -/
structure Request.Changes (page : Nat) (headers : HeaderParser)
    (calls : List (ImageKind × List UInt8)) (arrived : Nat) (loaded : Option UInt32)
    (r after : Request) : Prop where
  kind : after.kind = r.kind
  offset : after.offset = r.offset
  room : after.destination.length = r.destination.length
  /-- A length that was found is kept for an image that was loaded only. -/
  length : after.length = loaded.or r.length
  /-- It was loaded if it has a length that fits and all its bytes arrived, those of the first page
  once more if the length was not given. -/
  loaded_iff : ∀ n, loaded = some n ↔ r.Resolved headers calls n ∧ 0 < n.toNat ∧
    n.toNat ≤ r.destination.length ∧ arrived = n.toNat + if r.length = none then page else 0
  /-- Nothing is written behind the page that was needed and the image that fits. -/
  beyond : ∀ i, (r.length = none → page ≤ i) →
    (∀ n, r.Resolved headers calls n → n.toNat ≤ r.destination.length → n.toNat ≤ i) →
    after.destination[i]? = r.destination[i]?

/-! ## The two reads -/

/-- What copying an image of length `n` leaves. -/
structure Request.Copied (n : UInt32) (r : Request) (d : Delivery) (es : List Event) : Prop where
  writes : r.Writes (if n.toNat ≤ r.destination.length then n.toNat else 0) d.request
  headers : headerCalls es = []
  ok : ∀ m, d.result = .ok m → m = n ∧ 0 < n.toNat ∧ n.toNat ≤ r.destination.length ∧
    arrivals es = n.toNat ∧ d.request.length = some n
  error : ∀ e, d.result = .error e → d.request.length = r.length ∧
    (0 < n.toNat → n.toNat ≤ r.destination.length → arrivals es < n.toNat)

/-- What looking for the length of an image leaves. -/
structure Request.Found (page : Nat) (headers : HeaderParser) (r : Request) (d : Delivery)
    (es : List Event) : Prop where
  writes : r.Writes page d.request
  length : d.request.length = r.length
  ok : ∀ n, d.result = .ok n → arrivals es = page ∧
    ∃ header, headerCalls es = [(r.kind, header)] ∧ headers r.kind header = some n
  error : ∀ e, d.result = .error e →
    ∀ header, (r.kind, header) ∈ headerCalls es → headers r.kind header = none

namespace Geometry

variable {g : Geometry} {headers : HeaderParser} {r r' : Request} {n : UInt32} {d d' : Delivery}
  {t : Trace}

theorem Copies.toCopied (h : g.Copies n r r' d d' t) : r.Copied n d t.events := by
  cases h with
  | refused hunfit =>
    exact ⟨.refl _ r, rfl, nofun, fun _ _ => ⟨rfl, fun hpos hfits => absurd ⟨hpos, hfits⟩ hunfit⟩⟩
  | copied hpos hroom hlength hreads =>
    have harrives := hreads.arrives
    refine ⟨?_, harrives.headers, fun m hm => ?_, nofun⟩
    · rw [if_pos hroom]
      exact .front hlength hroom _
    · exact ⟨(Except.ok.inj hm).symm, hpos, hroom, harrives.all rfl, rfl⟩
  | @failed e bytes _ t _ hroom hwrites hreads =>
    have harrives := hreads.arrives
    have hlength := hwrites.length.trans (List.length_take_of_le hroom)
    have hevents : Trace.events (.message (.copying n r.offset) :: (t ++
        if e.isTrap then [] else [.message .copyFailed])) = t.events := by
      change Trace.events (t ++ _) = _
      rw [Trace.events_append]
      cases e.isTrap <;> exact List.append_nil _
    rw [hevents]
    refine ⟨?_, harrives.headers, nofun, fun _ _ => ⟨rfl, fun _ _ => harrives.some e rfl⟩⟩
    rw [if_pos hroom]
    exact .front hlength hroom _

theorem Finds.toFound (h : g.Finds headers r r' d d' t) :
    r.Found g.pageSize.toNat headers d t.events := by
  cases h with
  | short _ => exact ⟨.refl _ r, rfl, nofun, fun _ _ _ => nofun⟩
  | failed hroom hwrites hreads =>
    have hlength := hwrites.length.trans (List.length_take_of_le hroom)
    refine ⟨.front hlength hroom _, rfl, nofun, fun _ _ header hmem => ?_⟩
    rw [hreads.arrives.headers] at hmem
    cases hmem
  | @found n bytes t hroom hlength hreads hheader =>
    have harrives := hreads.arrives
    refine ⟨.front hlength hroom _, rfl, fun m hm => ?_, nofun⟩
    rw [Trace.events_append, headerCalls_append, arrivals_append, harrives.headers,
      harrives.all rfl]
    exact ⟨rfl, bytes, rfl, Except.ok.inj hm ▸ hheader⟩
  | @invalid bytes t hroom hlength hreads hheader =>
    refine ⟨.front hlength hroom _, rfl, nofun, fun _ _ header hmem => ?_⟩
    rw [Trace.events_append, headerCalls_append, hreads.arrives.headers] at hmem
    cases List.mem_singleton.1 hmem
    exact hheader

end Geometry

/-! ## The whole load -/

namespace Request

variable {headers : HeaderParser} {r : Request} {d found : Delivery} {es es' : List Event}
  {page : Nat} {n : UInt32}

/-- With a length that is given. -/
theorem Copied.changes (h : r.Copied n d es) (hlength : r.length = some n) :
    r.Changes page headers (headerCalls es) (arrivals es) d.result.toOption d.request := by
  have hresolved : ∀ m, r.Resolved headers (headerCalls es) m ↔ n = m := by
    simp [Resolved, hlength]
  refine ⟨h.writes.kind, h.writes.offset, h.writes.room, ?_, fun m => ?_, fun i _ hi => ?_⟩
  · cases hr : d.result with
    | ok m =>
      obtain ⟨rfl, -, -, -, hlen⟩ := h.ok m hr
      exact hlen
    | error e => exact (h.error e hr).1
  · simp only [hresolved, hlength, reduceCtorEq, if_false, Nat.add_zero]
    cases hr : d.result with
    | ok k =>
      obtain ⟨rfl, hpos, hfits, hall, -⟩ := h.ok k hr
      simp only [Except.toOption, Option.some.injEq]
      exact ⟨fun hk => hk ▸ ⟨rfl, hpos, hfits, hall⟩, fun hm => hm.1⟩
    | error e =>
      refine iff_of_false nofun ?_
      rintro ⟨rfl, hpos, hfits, hall⟩
      exact absurd hall (Nat.ne_of_lt ((h.error e hr).2 hpos hfits))
  · refine h.writes.beyond i ?_
    split
    case isTrue hfits => exact hi n ((hresolved n).2 rfl) hfits
    case isFalse => exact Nat.zero_le i

/-- Without one, when it is not found. -/
theorem Found.changes {e : Failure} (h : r.Found page headers d es) (hlength : r.length = none)
    (hr : d.result = .error e) :
    r.Changes page headers (headerCalls es) (arrivals es) none d.request := by
  refine ⟨h.writes.kind, h.writes.offset, h.writes.room, h.length, fun m => ?_, fun i hi _ =>
    h.writes.beyond i (hi hlength)⟩
  refine iff_of_false nofun ?_
  rintro ⟨hgiven | ⟨-, header, hmem, hfound⟩, -⟩
  · cases hlength.symm.trans hgiven
  · cases (h.error e hr header hmem).symm.trans hfound

/-- Without one, when it is found first. -/
theorem Found.changes_of_copied (h : r.Found page headers found es) (hlength : r.length = none)
    (hr : found.result = .ok n) (hcopied : found.request.Copied n d es') :
    r.Changes page headers (headerCalls (es ++ es')) (arrivals (es ++ es')) d.result.toOption
      d.request := by
  obtain ⟨hpage, header, hcalls, hfound⟩ := h.ok n hr
  have hresolved : ∀ m, r.Resolved headers (headerCalls (es ++ es')) m ↔ n = m := by
    simp [Resolved, hlength, hcalls, hcopied.headers, hfound]
  have hwrites := h.writes.trans hcopied.writes
  refine ⟨hwrites.kind, hwrites.offset, hwrites.room, ?_, fun m => ?_, fun i hi hi' => ?_⟩
  · cases hd : d.result with
    | ok m =>
      obtain ⟨rfl, -, -, -, hlen⟩ := hcopied.ok m hd
      exact hlen
    | error e => exact (hcopied.error e hd).1.trans h.length
  · simp only [hresolved, hlength, if_true, arrivals_append, hpage, ← h.writes.room]
    cases hd : d.result with
    | ok k =>
      obtain ⟨rfl, hpos, hfits, hall, -⟩ := hcopied.ok k hd
      simp only [Except.toOption, Option.some.injEq]
      exact ⟨fun hk => hk ▸ ⟨rfl, hpos, hfits, by omega⟩, fun hm => hm.1⟩
    | error e =>
      refine iff_of_false nofun ?_
      rintro ⟨rfl, hpos, hfits, hall⟩
      have hsome := (hcopied.error e hd).2 hpos hfits
      omega
  · refine hwrites.beyond i (Nat.max_le.2 ⟨hi hlength, ?_⟩)
    split
    case isTrue hfits => exact hi' n ((hresolved n).2 rfl) (h.writes.room ▸ hfits)
    case isFalse => exact Nat.zero_le i

end Request

theorem Geometry.Loads.changes {g : Geometry} {headers : HeaderParser} {r r' : Request}
    {d d' : Delivery} {t : Trace} (h : g.Loads headers r r' d d' t) :
    r.Changes g.pageSize.toNat headers (headerCalls t.events) (arrivals t.events)
      d.result.toOption d.request := by
  cases h with
  | given hlength hcopies => exact hcopies.toCopied.changes hlength
  | unfound hlength hfinds => exact hfinds.toFound.changes hlength rfl
  | found hlength hfinds hcopies =>
    rw [Trace.events_append]
    exact hfinds.toFound.changes_of_copied hlength rfl hcopies.toCopied

/-- Whatever the board does, a load changes no more of its request than it may. -/
theorem Flash.loadImage_changes (f : Flash) (headers : HeaderParser) (r : Request) (b : Board) :
    r.Changes f.geometry.pageSize.toNat headers (headerCalls (f.loadImage headers r b).events)
      (arrivals (f.loadImage headers r b).events) (f.loadImage headers r b).value.result.toOption
      (f.loadImage headers r b).value.request :=
  let ⟨_, hway⟩ := f.loadImage_leaves headers r b
  hway.changes

end FlashBoot
