import FlashBoot.Flash.Read
import Mathlib.Algebra.Ring.Nat

/-!
# The chunks of a read

`chunksFrom (chunkSizes count limit) start` lists the chunks of a read of `count` bytes from `start`
on. There are `count / limit` of them, rounded up (`length_chunkSizes`), and the `k`-th starts at
`start + k * limit` (`getElem?_chunks`). What is delivered chunk by chunk holds each byte where the
read wants it (`getElem?_flatMap_chunks`).

An induction over the chunks of a read carries `Fills`, that they fill the buffer: it says of the
first chunk what its transaction needs, and holds of the others and the rest of the buffer
(`Fills.drop`).
-/

namespace FlashBoot

variable {count limit k : Nat}

/-! ## Sizes -/

theorem sum_chunkSizes (count limit : Nat) : (chunkSizes count limit).sum = count := by
  have h := Nat.div_add_mod' count limit
  unfold chunkSizes
  split <;> simp_all

theorem pos_of_mem_chunkSizes {s : Nat} (h : s ∈ chunkSizes count limit) : 0 < s := by
  unfold chunkSizes at h
  rcases List.mem_append.1 h with h | h
  · obtain ⟨hcount, rfl⟩ := List.mem_replicate.1 h
    rcases Nat.eq_zero_or_pos s with rfl | hpos
    · simp at hcount
    · exact hpos
  · split at h
    · cases h
    · have hs := List.mem_singleton.1 h
      omega

theorem exists_chunkSizes_cons {count : Nat} (h : 0 < count) (limit : Nat) :
    ∃ size sizes, chunkSizes count limit = size :: sizes ∧ 0 < size := by
  have hsum := sum_chunkSizes count limit
  cases hc : chunkSizes count limit with
  | nil =>
    rw [hc, List.sum_nil] at hsum
    omega
  | cons size sizes =>
    exact ⟨size, sizes, rfl, pos_of_mem_chunkSizes (hc ▸ List.mem_cons_self)⟩

/-- A read that is not empty takes one chunk, and then reads what is left. -/
theorem chunkSizes_cons (hcount : 0 < count) (hlimit : 0 < limit) :
    chunkSizes count limit = min limit count :: chunkSizes (count - limit) limit := by
  unfold chunkSizes
  rcases Nat.lt_or_ge count limit with h | h
  · have hzero : count - limit = 0 := by omega
    have hmin : min limit count = count := by omega
    rw [Nat.div_eq_of_lt h, Nat.mod_eq_of_lt h, if_neg (by omega), hzero, hmin]
    simp
  · rw [Nat.div_eq_sub_div hlimit h, Nat.mod_eq_sub_mod h, Nat.min_eq_left h]
    simp [List.replicate_succ]

theorem length_chunkSizes (hlimit : 0 < limit) :
    (chunkSizes count limit).length = (count + limit - 1) / limit := by
  induction count using Nat.strongRecOn with
  | ind count ih =>
    rcases Nat.eq_zero_or_pos count with rfl | hcount
    · have hzero : (limit - 1) / limit = 0 := Nat.div_eq_of_lt (by omega)
      simp [chunkSizes, hzero]
    · rw [chunkSizes_cons hcount hlimit, List.length_cons, ih _ (by omega)]
      rcases Nat.lt_or_ge count limit with h | h
      · have hzero : (count - limit + limit - 1) / limit = 0 := Nat.div_eq_of_lt (by omega)
        have hone : count + limit - 1 = limit + (count - 1) := by omega
        rw [hzero, hone, Nat.add_div_left _ hlimit, Nat.div_eq_of_lt (by omega)]
      · have hnext : count + limit - 1 = limit + (count - limit + limit - 1) := by omega
        rw [hnext, Nat.add_div_left _ hlimit]

/-- Up to the `k`-th chunk all are full, and that one is full or the last. -/
theorem exists_chunkSizes_eq (hlimit : 0 < limit) (h : k * limit < count) : ∃ rest,
    chunkSizes count limit = List.replicate k limit ++ min limit (count - k * limit) :: rest := by
  induction k generalizing count with
  | zero =>
    rw [Nat.zero_mul] at h
    refine ⟨chunkSizes (count - limit) limit, ?_⟩
    rw [chunkSizes_cons h hlimit]
    simp
  | succ k ih =>
    rw [Nat.succ_mul] at h
    obtain ⟨rest, hrest⟩ := ih (show k * limit < count - limit by omega)
    have hsub : count - limit - k * limit = count - (k + 1) * limit := by
      rw [Nat.succ_mul]
      omega
    refine ⟨rest, ?_⟩
    rw [chunkSizes_cons (by omega) hlimit, hrest, hsub, Nat.min_eq_left (by omega)]
    rfl

/-- Of any chunk it is known how many full ones stand before it, and so its size. -/
theorem eq_of_chunkSizes_eq {done left : List Nat} {size : Nat} (hlimit : 0 < limit)
    (h : chunkSizes count limit = done ++ size :: left) :
    done.length * limit < count ∧ done.sum = done.length * limit ∧
      size = min limit (count - done.length * limit) := by
  have hlen := congrArg List.length h
  rw [length_chunkSizes hlimit, List.length_append, List.length_cons] at hlen
  have hlt : done.length * limit < count := by
    have hmul := (Nat.lt_div_iff_mul_lt hlimit).1
      (show done.length < (count + limit - 1) / limit by omega)
    omega
  obtain ⟨rest, hrest⟩ := exists_chunkSizes_eq hlimit hlt
  obtain ⟨hdone, hsize⟩ := List.append_inj (h.symm.trans hrest) (by simp)
  refine ⟨hlt, ?_, (List.cons.inj hsize).1⟩
  rw [hdone, List.sum_replicate_nat, List.length_replicate]

/-! ## Filling a buffer -/

theorem take_ne_nil {buffer : List UInt8} {size : Nat} (hsize : 0 < size)
    (hbuffer : 0 < buffer.length) : buffer.take size ≠ [] := by
  intro h
  have hlen := congrArg List.length h
  rw [List.length_take, List.length_nil] at hlen
  omega

/-- Chunks of these sizes, none of them empty, fill the buffer. -/
structure Fills (sizes : List Nat) (buffer : List UInt8) : Prop where
  pos : ∀ s ∈ sizes, 0 < s
  sum : sizes.sum = buffer.length

theorem fills_chunkSizes (buffer : List UInt8) (limit : Nat) :
    Fills (chunkSizes buffer.length limit) buffer :=
  ⟨fun _ => pos_of_mem_chunkSizes, sum_chunkSizes ..⟩

namespace Fills

variable {size : Nat} {sizes : List Nat} {buffer : List UInt8}

theorem length_take (h : Fills (size :: sizes) buffer) : (buffer.take size).length = size := by
  have hsum := h.sum
  rw [List.sum_cons] at hsum
  exact List.length_take_of_le (by omega)

theorem take_ne_nil (h : Fills (size :: sizes) buffer) : buffer.take size ≠ [] := by
  have hsize := h.pos size List.mem_cons_self
  exact List.ne_nil_of_length_pos (h.length_take.symm ▸ hsize)

theorem length_drop (h : Fills (size :: sizes) buffer) :
    size + (buffer.drop size).length = buffer.length := by
  have hsum := h.sum
  rw [List.sum_cons] at hsum
  rw [List.length_drop]
  omega

/-- The other chunks fill what is behind the first one. -/
theorem drop (h : Fills (size :: sizes) buffer) : Fills sizes (buffer.drop size) := by
  have hsum := h.sum
  have hdrop := h.length_drop
  rw [List.sum_cons] at hsum
  exact ⟨fun s hs => h.pos s (List.mem_cons_of_mem _ hs), by omega⟩

end Fills

/-! ## Places -/

/-- Chunks of the given sizes, one behind the other: where each of them starts, and its size. -/
def chunksFrom : List Nat → Nat → List (Nat × Nat)
  | [], _ => []
  | size :: sizes, start => (start, size) :: chunksFrom sizes (start + size)

@[simp] theorem length_chunksFrom (sizes : List Nat) (start : Nat) :
    (chunksFrom sizes start).length = sizes.length := by
  induction sizes generalizing start with
  | nil => rfl
  | cons size sizes ih => simp [chunksFrom, ih]

theorem chunksFrom_append (sizes sizes' : List Nat) (start : Nat) :
    chunksFrom (sizes ++ sizes') start =
      chunksFrom sizes start ++ chunksFrom sizes' (start + sizes.sum) := by
  induction sizes generalizing start with
  | nil => simp [chunksFrom]
  | cons size sizes ih => simp [chunksFrom, ih, Nat.add_assoc]

/-- The chunks before the `k`-th one, that one, and the others. -/
theorem exists_chunks_eq (hlimit : 0 < limit) (h : k * limit < count) (start : Nat) : ∃ rest,
    chunksFrom (chunkSizes count limit) start = chunksFrom (List.replicate k limit) start ++
      (start + k * limit, min limit (count - k * limit)) :: rest := by
  obtain ⟨rest, hrest⟩ := exists_chunkSizes_eq hlimit h
  rw [hrest, chunksFrom_append, List.sum_replicate_nat]
  exact ⟨_, rfl⟩

theorem getElem?_chunks (hlimit : 0 < limit) (h : k * limit < count) (start : Nat) :
    (chunksFrom (chunkSizes count limit) start)[k]? =
      some (start + k * limit, min limit (count - k * limit)) := by
  obtain ⟨rest, hrest⟩ := exists_chunks_eq hlimit h start
  rw [hrest, List.getElem?_append_right (by simp)]
  simp

/-- How many chunks a read of `count` bytes takes. -/
def Flash.chunkCount (f : Flash) (count : Nat) : Nat := (count + f.maxTransfer - 1) / f.maxTransfer

/-- How many bytes the `k`-th chunk of a read of `count` bytes has. -/
def Flash.chunkLength (f : Flash) (count k : Nat) : Nat :=
  min f.maxTransfer (count - k * f.maxTransfer)

theorem Flash.chunks_eq {f : Flash} (hmax : 0 < f.maxTransfer) (count start : Nat) :
    chunksFrom (chunkSizes count f.maxTransfer) start =
      (List.range (f.chunkCount count)).map fun k =>
        (start + k * f.maxTransfer, f.chunkLength count k) := by
  refine List.ext_getElem ?_ fun k h h' => ?_
  · rw [length_chunksFrom, length_chunkSizes hmax, List.length_map, List.length_range, chunkCount]
  · rw [length_chunksFrom, length_chunkSizes hmax, Nat.lt_div_iff_mul_lt hmax] at h
    obtain ⟨_, hk⟩ := List.getElem?_eq_some_iff.1
      (getElem?_chunks hmax (show k * f.maxTransfer < count by omega) start)
    simpa [chunkLength] using hk

section
variable {f : Nat × Nat → List UInt8} (hf : ∀ c, (f c).length = c.2)
include hf

theorem length_flatMap_chunksFrom (sizes : List Nat) (start : Nat) :
    ((chunksFrom sizes start).flatMap f).length = sizes.sum := by
  induction sizes generalizing start with
  | nil => rfl
  | cons size sizes ih => simp [chunksFrom, ih, hf]

/-- The byte behind `k` full chunks and `j` further bytes is the `j`-th one of the `k`-th chunk. -/
theorem getElem?_flatMap_chunks {j : Nat} (hj : j < limit) (h : k * limit + j < count)
    (start : Nat) : ((chunksFrom (chunkSizes count limit) start).flatMap f)[k * limit + j]? =
      (f (start + k * limit, min limit (count - k * limit)))[j]? := by
  obtain ⟨rest, hrest⟩ := exists_chunks_eq (by omega) (show k * limit < count by omega) start
  have hpre : ((chunksFrom (List.replicate k limit) start).flatMap f).length = k * limit := by
    rw [length_flatMap_chunksFrom hf, List.sum_replicate_nat]
  rw [hrest, List.flatMap_append, List.flatMap_cons,
    List.getElem?_append_right (by omega), hpre, Nat.add_sub_cancel_left,
    List.getElem?_append_left]
  rw [hf]
  simp only
  omega

end

end FlashBoot
