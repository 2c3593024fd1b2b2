import FlashBoot.Part
import Mathlib.Algebra.Ring.Nat

/-!
# The first match of a lookup

`Part.find?` goes through a list until a part accepts the identifier, and a part that claims more
than the six bytes it can hold stops it with a trap. Without such parts a lookup is the plain search
for a part whose significant bytes the identifier starts with (`Part.Matches`, `find?_eq`), and what
stands behind a match does not matter (`find?_append`).

The size of a part is a word or a trap (`capacity_eq_error_iff`); the sizes of a part that needs no
more than three address bytes are collected in `Part.Sized`.
-/

namespace FlashBoot.Part

/-- The identifier starts with the significant bytes of the part, of which there are one to five. -/
def Matches (p : Part) (id : JedecId) : Prop :=
  0 < p.idLength ∧ p.idLength ≤ 5 ∧
    p.id.toList.take p.idLength = id.bytes.toList.take p.idLength

instance (p : Part) (id : JedecId) : Decidable (p.Matches id) :=
  inferInstanceAs (Decidable (_ ∧ _ ∧ _))

variable {p : Part} {ps : List Part} {id : JedecId}

theorem accepts_eq (h : p.idLength ≤ 6) (id : JedecId) :
    p.accepts id = .ok (decide (p.Matches id)) := by
  unfold accepts
  rw [if_neg (by omega)]
  congr 1
  rw [Bool.eq_iff_iff, decide_eq_true_iff]
  simp [Matches, and_assoc]

theorem find?_cons (id : JedecId) (p : Part) (ps : List Part) :
    find? id (p :: ps) = match p.accepts id with
      | .ok true => .ok (some p)
      | .ok false => find? id ps
      | .error t => .error t := by
  rw [find?]
  rcases p.accepts id with t | _ | _ <;> rfl

theorem find?_append (id : JedecId) (ps qs : List Part) :
    find? id (ps ++ qs) = match find? id ps with
      | .ok none => find? id qs
      | r => r := by
  induction ps with
  | nil => rfl
  | cons p ps ih =>
    rw [List.cons_append, find?_cons, find?_cons]
    rcases p.accepts id with t | _ | _
    · rfl
    · exact ih
    · rfl

theorem find?_eq (h : ∀ p ∈ ps, p.idLength ≤ 6) (id : JedecId) :
    find? id ps = .ok (ps.find? (·.Matches id)) := by
  induction ps with
  | nil => rfl
  | cons p ps ih =>
    have ih := ih fun q hq => h q (List.mem_cons_of_mem _ hq)
    rw [find?_cons, accepts_eq (h p List.mem_cons_self), List.find?_cons, ih]
    cases decide (p.Matches id) <;> rfl

/-- Parts of which none matches are skipped. -/
theorem find?_append_of_none {qs : List Part} (hlen : ∀ p ∈ ps, p.idLength ≤ 6)
    (h : ∀ p ∈ ps, ¬ p.Matches id) : find? id (ps ++ qs) = find? id qs := by
  have hnone : ps.find? (fun p => decide (p.Matches id)) = none :=
    List.find?_eq_none.2 fun p hp => by simpa using h p hp
  rw [find?_append, find?_eq hlen, hnone]

/-- A list in which some part matches has a first one that does. -/
theorem exists_find? (hlen : ∀ p ∈ ps, p.idLength ≤ 6) (hp : p ∈ ps) (h : p.Matches id) :
    ∃ q ∈ ps, q.Matches id ∧ find? id ps = .ok (some q) := by
  have hsome : (ps.find? fun q => decide (q.Matches id)).isSome :=
    List.find?_isSome.2 ⟨p, hp, decide_eq_true h⟩
  obtain ⟨q, hq⟩ := Option.isSome_iff_exists.1 hsome
  have hm := List.find?_some (p := fun q : Part => decide (q.Matches id)) hq
  exact ⟨q, List.mem_of_find?_eq_some hq, of_decide_eq_true hm, by rw [find?_eq hlen, hq]⟩

/-- A lookup that ends with a part has found a match in the list. -/
theorem mem_of_find? (h : find? id ps = .ok (some p)) : p ∈ ps := by
  induction ps with
  | nil => cases h
  | cons q qs ih =>
    rw [find?_cons] at h
    split at h
    case h_1 =>
      obtain rfl := Option.some.inj (Except.ok.inj h)
      exact List.mem_cons_self
    case h_2 => exact List.mem_cons_of_mem _ (ih h)
    case h_3 => cases h

/-- A part that claims too many bytes is met exactly when nothing before it matches. -/
theorem find?_eq_error_iff {pre rest : List Part} (hpre : ∀ q ∈ pre, q.idLength ≤ 6)
    (hp : 6 < p.idLength) :
    (∃ t, find? id (pre ++ p :: rest) = .error t) ↔ ∀ q ∈ pre, ¬ q.Matches id := by
  have htrap : find? id (p :: rest) = .error (.rangeEnd p.idLength 6) := by
    rw [find?_cons, accepts, if_pos hp]
  rw [find?_append, find?_eq hpre]
  cases hq : pre.find? fun q => decide (q.Matches id) with
  | none =>
    rw [List.find?_eq_none] at hq
    constructor
    · intro _ q hmem hmatch
      exact hq q hmem (decide_eq_true hmatch)
    · intro _
      exact ⟨_, htrap⟩
  | some q =>
    have hmatch := List.find?_some hq
    constructor
    · rintro ⟨t, ht⟩
      cases ht
    · intro hnone
      exact absurd (of_decide_eq_true hmatch) (hnone q (List.mem_of_find?_eq_some hq))

/-! ## Sizes -/

/-- A part has a size exactly when the bytes of its sectors are a word. -/
theorem capacity_eq_error_iff : (∃ t, p.capacity = .error t) ↔
    2 ^ 32 ≤ p.sectorSize.toNat * p.sectorCount.toNat := by
  simp [capacity, Word.mul_eq_error_iff, UInt32.size]

/-- There are sectors, few enough for three address bytes, and pages, and the size is a word. -/
structure Sized (p : Part) : Prop where
  sectorCount_pos : 1 ≤ p.sectorCount
  sectorCount_le : p.sectorCount ≤ 16384
  pageSize_pos : 1 ≤ p.pageSize
  capacity : p.sectorSize.toNat * p.sectorCount.toNat < 2 ^ 32

instance (p : Part) : Decidable p.Sized :=
  decidable_of_iff (1 ≤ p.sectorCount ∧ p.sectorCount ≤ 16384 ∧ 1 ≤ p.pageSize ∧
    p.sectorSize.toNat * p.sectorCount.toNat < 2 ^ 32)
    ⟨fun ⟨h₁, h₂, h₃, h₄⟩ => ⟨h₁, h₂, h₃, h₄⟩, fun ⟨h₁, h₂, h₃, h₄⟩ => ⟨h₁, h₂, h₃, h₄⟩⟩

end FlashBoot.Part
