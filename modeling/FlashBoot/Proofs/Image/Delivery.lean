import FlashBoot.Image.Request
import FlashBoot.Proofs.Flash.Ways

/-!
# What loading an image gives

On a board without faults and a linear device that decodes the address bytes it is sent, an image
is loaded by a table (`Request.delivered`) that knows the array as a function of the address and
nothing of transactions, chunks or framing:

* a length of 0, a length above the room, or a header page above the room is refused first;
* then a range that leaves the reach of the address bytes;
* otherwise the bytes of the range are in place, and the length is known.

`Flash.loadImage_goes` proves this, and that the header parser is asked as in `Request.asked`.
-/

namespace FlashBoot

/-! ## The table -/

namespace Request

/-- The copy of an image of known length from an array of which `reach` addresses are in reach. -/
def copied (m : Memory) (reach : Nat) (r : Request) (length : UInt32) : Delivery :=
  if length.toNat = 0 ∨ r.destination.length < length.toNat then ⟨.error (.error .length), r⟩
  else if reach < r.offset.toNat + length.toNat then ⟨.error (.error .outOfBounds), r⟩
  else ⟨.ok length, { r with
    destination := m.readRange r.offset.toNat length.toNat ++ r.destination.drop length.toNat
    length := some length }⟩

/-- The request with the first page of its image in place. -/
def withPage (m : Memory) (page : Nat) (r : Request) : Request :=
  { r with destination := m.readRange r.offset.toNat page ++ r.destination.drop page }

/-- What a request leads to when pages have `page` bytes: an image without a length has its page
read first, and the parser finds the length in it. -/
def delivered (m : Memory) (reach page : Nat) (headers : HeaderParser) (r : Request) : Delivery :=
  match r.length with
  | some length => r.copied m reach length
  | none =>
    if r.destination.length < page then ⟨.error (.error .length), r⟩
    else if 0 < page ∧ reach < r.offset.toNat + page then ⟨.error (.error .outOfBounds), r⟩
    else match headers r.kind (m.readRange r.offset.toNat page) with
      | some length => (r.withPage m page).copied m reach length
      | none => ⟨.error (.error .length), r.withPage m page⟩

/-- What the header parser is asked. -/
def asked (m : Memory) (reach page : Nat) (r : Request) : List (ImageKind × List UInt8) :=
  if r.length = none ∧ page ≤ r.destination.length ∧
      (0 < page → r.offset.toNat + page ≤ reach) then
    [(r.kind, m.readRange r.offset.toNat page)]
  else []

end Request

/-! ## Loading -/

namespace Flash

variable {f : Flash} {b : Board}

/-- A read into the first `count` bytes of a destination that has them. -/
theorem read_take_goes (hb : b.fourByte = f.geometry.fourByte) (hmode : f.geometry.mode = .linear)
    (offset : UInt32) {destination : List UInt8} {count : Nat}
    (hroom : count ≤ destination.length) :
    ∃ es, headerCalls es = [] ∧ Drive.Goes (f.read offset (destination.take count)) b.quiet
      (if 0 < count ∧ f.geometry.reach < offset.toNat + count then
        ⟨.error (.error .outOfBounds), destination.take count⟩
      else ⟨.ok (), b.memory.readRange offset.toNat count⟩) b.quiet es := by
  have hlen : (destination.take count).length = count := by
    rw [List.length_take]
    omega
  have hne : destination.take count ≠ [] ↔ 0 < count := by
    rw [← List.length_pos_iff, hlen]
  have hgoes := read_goes hb hmode offset (destination.take count)
  have hsends := (read_within f offset (destination.take count)).events b.quiet
  rw [hgoes.events, hlen] at hsends
  refine ⟨f.linearReads offset.toNat count,
    headerCalls_of_sends fun e he => (hsends e he).issues.sends, ?_⟩
  rw [Memory.fetch, hlen] at hgoes
  simp only [hne] at hgoes
  exact hgoes

theorem copyImage_goes (hb : b.fourByte = f.geometry.fourByte) (hmode : f.geometry.mode = .linear)
    (r : Request) (length : UInt32) :
    ∃ es, headerCalls es = [] ∧ Drive.Goes (f.copyImage r length) b.quiet
      (r.copied b.memory f.geometry.reach length) b.quiet es := by
  unfold copyImage Request.copied
  by_cases hroom : length.toNat = 0 ∨ r.destination.length < length.toNat
  · have hcond : (decide (length.toNat = 0) || decide (r.destination.length < length.toNat)) =
        true := by simpa using hroom
    simp only [hcond, if_pos hroom]
    exact ⟨[], rfl, Drive.Goes.log_bind (.pure _ _)⟩
  · have hcond : (decide (length.toNat = 0) || decide (r.destination.length < length.toNat)) =
        false := by simpa using hroom
    obtain ⟨es, hheaders, hread⟩ := read_take_goes hb hmode r.offset
      (show length.toNat ≤ r.destination.length by omega)
    refine ⟨es, hheaders, ?_⟩
    simp only [hcond, if_neg hroom]
    by_cases hreach : f.geometry.reach < r.offset.toNat + length.toNat
    · rw [if_pos ⟨by omega, hreach⟩] at hread
      rw [if_pos hreach, if_neg Bool.false_ne_true]
      refine .log_bind (.of_eq (hread.bind_silent (.log_bind (.pure _ _))) ?_)
      simp only [List.take_append_drop]
    · rw [if_neg (fun h => hreach h.2)] at hread
      rw [if_neg hreach, if_neg Bool.false_ne_true]
      exact .log_bind (hread.bind_silent (.pure _ _))

theorem parseHeader_goes (headers : HeaderParser) (kind : ImageKind) (header : List UInt8) :
    Drive.Goes (parseHeader headers kind header) b (headers kind header) b
      [.header kind header] :=
  (Drive.Goes.emit _ b).bind (.pure _ _)

/-- How finding the length of an image ends, and the request it leaves. -/
theorem discoverLength_goes (hb : b.fourByte = f.geometry.fourByte)
    (hmode : f.geometry.mode = .linear) (headers : HeaderParser) {r : Request}
    (hlength : r.length = none) :
    ∃ es, headerCalls es = r.asked b.memory f.geometry.reach f.geometry.pageSize.toNat ∧
      Drive.Goes (f.discoverLength headers r) b.quiet
        (if r.destination.length < f.geometry.pageSize.toNat then ⟨.error (.error .length), r⟩
        else if 0 < f.geometry.pageSize.toNat ∧
            f.geometry.reach < r.offset.toNat + f.geometry.pageSize.toNat then
          ⟨.error (.error .outOfBounds), r⟩
        else ⟨match
            headers r.kind (b.memory.readRange r.offset.toNat f.geometry.pageSize.toNat) with
          | some length => .ok length
          | none => .error (.error .length), r.withPage b.memory f.geometry.pageSize.toNat⟩)
        b.quiet es := by
  unfold discoverLength Request.asked
  generalize f.geometry.pageSize.toNat = page
  by_cases hroom : r.destination.length < page
  · rw [if_neg (by omega)]
    simp only [if_pos hroom]
    exact ⟨[], rfl, .pure _ _⟩
  obtain ⟨es, hheaders, hread⟩ := read_take_goes hb hmode r.offset
    (show page ≤ r.destination.length by omega)
  simp only [if_neg hroom]
  by_cases hreach : 0 < page ∧ f.geometry.reach < r.offset.toNat + page
  · rw [if_pos hreach] at hread
    rw [if_neg (by omega), if_pos hreach]
    refine ⟨es, hheaders, .of_eq (hread.bind_silent (.pure _ _)) ?_⟩
    simp only [List.take_append_drop]
  · rw [if_neg hreach] at hread
    rw [if_pos ⟨hlength, by omega, by omega⟩, if_neg hreach]
    have hask := parseHeader_goes (b := b.quiet) headers r.kind
      (b.memory.readRange r.offset.toNat page)
    refine ⟨es ++ [.header r.kind (b.memory.readRange r.offset.toNat page)], ?_, ?_⟩
    · rw [headerCalls_append, hheaders]
      rfl
    · refine hread.bind ?_
      cases hh : headers r.kind (b.memory.readRange r.offset.toNat page) with
      | some length =>
        rw [hh] at hask
        exact hask.bind_silent (.pure _ _)
      | none =>
        rw [hh] at hask
        exact hask.bind_silent (.log_bind (.pure _ _))

/-- Loading an image does what the table says. -/
theorem loadImage_goes (hb : b.fourByte = f.geometry.fourByte) (hmode : f.geometry.mode = .linear)
    (headers : HeaderParser) (r : Request) :
    ∃ es, headerCalls es = r.asked b.memory f.geometry.reach f.geometry.pageSize.toNat ∧
      Drive.Goes (f.loadImage headers r) b.quiet
        (r.delivered b.memory f.geometry.reach f.geometry.pageSize.toNat headers) b.quiet es := by
  unfold loadImage Request.delivered
  cases hlength : r.length with
  | some length =>
    obtain ⟨es, hheaders, hcopy⟩ := copyImage_goes hb hmode r length
    refine ⟨es, ?_, hcopy⟩
    rw [hheaders, Request.asked, if_neg (by simp [hlength])]
  | none =>
    obtain ⟨es, hheaders, hfind⟩ := discoverLength_goes hb hmode headers hlength
    dsimp only
    by_cases hroom : r.destination.length < f.geometry.pageSize.toNat
    · rw [if_pos hroom] at hfind ⊢
      exact ⟨es, hheaders, hfind.bind_silent (.pure _ _)⟩
    rw [if_neg hroom] at hfind ⊢
    by_cases hreach : 0 < f.geometry.pageSize.toNat ∧
        f.geometry.reach < r.offset.toNat + f.geometry.pageSize.toNat
    · rw [if_pos hreach] at hfind ⊢
      exact ⟨es, hheaders, hfind.bind_silent (.pure _ _)⟩
    rw [if_neg hreach] at hfind ⊢
    cases hh : headers r.kind (b.memory.readRange r.offset.toNat f.geometry.pageSize.toNat) with
    | none =>
      rw [hh] at hfind
      exact ⟨es, hheaders, hfind.bind_silent (.pure _ _)⟩
    | some length =>
      rw [hh] at hfind
      obtain ⟨es', hheaders', hcopy⟩ := copyImage_goes hb hmode
        (r.withPage b.memory f.geometry.pageSize.toNat) length
      refine ⟨es ++ es', ?_, hfind.bind hcopy⟩
      rw [headerCalls_append, hheaders', List.append_nil, hheaders]

end Flash

end FlashBoot
