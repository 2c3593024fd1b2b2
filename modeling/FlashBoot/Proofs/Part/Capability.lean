import FlashBoot.Part.Capability
import Mathlib.Data.BitVec
import Mathlib.Data.List.Nodup

/-!
# What the operations on capabilities compute

A set of capabilities is told by the bits of its word (`Capabilities.bit`), the known ones and those
above them. Each operation is what it says on every bit (`Capabilities.bit_union`, ...), so it is
what it says on the members (`Capabilities.mem_union`, ...). The complement has known bits only, and
`Capabilities.ofBits?` takes those words that have no others.

Names tell capabilities apart (`Capability.ofName?_eq_some_iff`). The text of a set names its
members and, as a word, its unknown bits (`Capabilities.text_of_known`), of which the set is made
(`Capabilities.of_members_union`).
-/

namespace FlashBoot

/-! ## The known bits -/

namespace Capability

variable {c d : Capability} {i : Nat}

/-- The bit of a capability. -/
def index (c : Capability) : Nat := all.idxOf c

theorem mem_all (c : Capability) : c ∈ all := by
  cases c <;> decide

theorem index_lt (c : Capability) : c.index < 19 :=
  List.idxOf_lt_length_iff.2 c.mem_all

theorem index_inj : c.index = d.index ↔ c = d :=
  List.idxOf_inj c.mem_all

/-- There are no bits between those of the capabilities. -/
theorem exists_index_eq (h : i < 19) : ∃ c : Capability, c.index = i := by
  have hnodup : all.Nodup := by decide
  exact ⟨all[i], hnodup.idxOf_getElem i h⟩

theorem toBitVec_mask (c : Capability) : c.mask.toBitVec = BitVec.twoPow 32 c.index := by
  cases c <;> decide

theorem getLsbD_mask (c : Capability) (i : Nat) :
    c.mask.toBitVec.getLsbD i = decide (i = c.index) := by
  have hlt := c.index_lt
  rw [toBitVec_mask, BitVec.getLsbD_twoPow]
  simp only [show c.index < 32 by omega, decide_true, Bool.true_and, eq_comm]

/-- A name belongs to one capability. -/
theorem ofName?_eq_some_iff {name : String} : ofName? name = some c ↔ c.name = name := by
  constructor
  · intro h
    simpa using List.find?_some h
  · intro h
    subst h
    cases c <;> decide

end Capability

namespace Capabilities

variable {a b : Capabilities} {c d : Capability} {i : Nat}

/-- Bit `i` of the word. -/
def bit (a : Capabilities) (i : Nat) : Bool := a.bits.toBitVec.getLsbD i

instance : Membership Capability Capabilities := ⟨fun a c => a.bit c.index = true⟩

theorem mem_iff : c ∈ a ↔ a.bit c.index = true := Iff.rfl

instance (c : Capability) (a : Capabilities) : Decidable (c ∈ a) :=
  inferInstanceAs (Decidable (a.bit c.index = true))

/-- Sets with the same bits are one. -/
theorem ext_bit (h : ∀ i, a.bit i = b.bit i) : a = b := by
  obtain ⟨a⟩ := a
  obtain ⟨b⟩ := b
  have hbits : a.toBitVec = b.toBitVec := BitVec.eq_of_getLsbD_eq fun i _ => h i
  rw [UInt32.toBitVec_inj.1 hbits]

/-! ## The operations on the bits -/

@[simp] theorem bit_empty (i : Nat) : (∅ : Capabilities).bit i = false := by
  show (0 : UInt32).toBitVec.getLsbD i = false
  simp

@[simp] theorem bit_singleton (c : Capability) (i : Nat) :
    ({c} : Capabilities).bit i = decide (i = c.index) :=
  c.getLsbD_mask i

@[simp] theorem bit_union (a b : Capabilities) (i : Nat) :
    (a ∪ b).bit i = (a.bit i || b.bit i) := by
  show (a.bits ||| b.bits).toBitVec.getLsbD i = _
  simp [bit]

@[simp] theorem bit_insert (c : Capability) (a : Capabilities) (i : Nat) :
    (insert c a).bit i = (decide (i = c.index) || a.bit i) := by
  show (c.mask ||| a.bits).toBitVec.getLsbD i = _
  simp [bit, c.getLsbD_mask]

@[simp] theorem bit_inter (a b : Capabilities) (i : Nat) :
    (a ∩ b).bit i = (a.bit i && b.bit i) := by
  show (a.bits &&& b.bits).toBitVec.getLsbD i = _
  simp [bit]

@[simp] theorem bit_symmDiff (a b : Capabilities) (i : Nat) :
    (a.symmDiff b).bit i = (a.bit i ^^ b.bit i) := by
  simp [symmDiff, bit]

theorem lt_of_bit (h : a.bit i = true) : i < 32 :=
  BitVec.lt_of_getLsbD h

@[simp] theorem bit_sdiff (a b : Capabilities) (i : Nat) :
    (a \ b).bit i = (a.bit i && !b.bit i) := by
  show (a.bits &&& ~~~b.bits).toBitVec.getLsbD i = _
  cases ha : a.bit i with
  | false => simp_all [bit]
  | true =>
    have hlt := lt_of_bit ha
    simp_all [bit]

@[simp] theorem bit_of (cs : List Capability) (i : Nat) :
    (of cs).bit i = cs.any (fun c => i = c.index) := by
  have hfold : ∀ w : UInt32, (cs.foldl (fun bits c => bits ||| c.mask) w).toBitVec.getLsbD i =
      (w.toBitVec.getLsbD i || cs.any (fun c => i = c.index)) := by
    induction cs with
    | nil => simp
    | cons c cs ih =>
      intro w
      rw [List.foldl_cons, ih, List.any_cons]
      simp [c.getLsbD_mask, Bool.or_assoc]
  simpa [bit, of] using hfold 0

@[simp] theorem bit_all (i : Nat) : all.bit i = decide (i < 19) := by
  rw [all, bit_of, Bool.eq_iff_iff, List.any_eq_true, decide_eq_true_iff]
  constructor
  · intro h
    obtain ⟨c, -, hc⟩ := h
    exact of_decide_eq_true hc ▸ c.index_lt
  · intro h
    obtain ⟨c, rfl⟩ := Capability.exists_index_eq h
    exact ⟨c, c.mem_all, decide_eq_true rfl⟩

/-- What is truncated are the unknown bits. -/
@[simp] theorem bit_truncate (a : Capabilities) (i : Nat) :
    (truncate a.bits).bit i = (a.bit i && decide (i < 19)) := by
  show (a ∩ all).bit i = _
  simp

@[simp] theorem bit_complement (a : Capabilities) (i : Nat) :
    a.complement.bit i = (!a.bit i && decide (i < 19)) := by
  show (truncate (⟨~~~a.bits⟩ : Capabilities).bits).bit i = _
  rw [bit_truncate]
  by_cases hi : i < 19
  · simp [bit, hi, show i < 32 by omega]
  · simp [hi]

/-! ## Membership -/

theorem not_mem_empty : c ∉ (∅ : Capabilities) := by
  simp [mem_iff]

@[simp] theorem mem_singleton : c ∈ ({d} : Capabilities) ↔ c = d := by
  simp [mem_iff, Capability.index_inj]

@[simp] theorem mem_insert : c ∈ insert d a ↔ c = d ∨ c ∈ a := by
  simp [mem_iff, Capability.index_inj]

@[simp] theorem mem_union : c ∈ a ∪ b ↔ c ∈ a ∨ c ∈ b := by
  simp [mem_iff]

@[simp] theorem mem_inter : c ∈ a ∩ b ↔ c ∈ a ∧ c ∈ b := by
  simp [mem_iff]

@[simp] theorem mem_sdiff : c ∈ a \ b ↔ c ∈ a ∧ c ∉ b := by
  simp [mem_iff]

@[simp] theorem mem_symmDiff : c ∈ a.symmDiff b ↔ ¬ (c ∈ a ↔ c ∈ b) := by
  simp [mem_iff]

@[simp] theorem mem_complement : c ∈ a.complement ↔ c ∉ a := by
  simp [mem_iff, c.index_lt]

@[simp] theorem mem_of {cs : List Capability} : c ∈ of cs ↔ c ∈ cs := by
  simp [mem_iff, Capability.index_inj]

/-! ## Questions -/

/-- Unknown bits count, too. -/
theorem contains_iff : a.contains b = true ↔ ∀ i, b.bit i = true → a.bit i = true := by
  rw [contains, decide_eq_true_iff]
  constructor
  · intro h i hi
    rw [← h, bit_inter, Bool.and_eq_true] at hi
    exact hi.1
  · intro h
    apply ext_bit
    intro i
    rw [bit_inter]
    cases hi : b.bit i with
    | false => simp
    | true => simp [h i hi]

theorem intersects_iff : a.intersects b = true ↔ ∃ i, a.bit i = true ∧ b.bit i = true := by
  rw [intersects, decide_eq_true_iff]
  constructor
  · intro h
    by_contra hnone
    apply h
    apply ext_bit
    intro i
    rw [bit_inter, bit_empty, Bool.eq_false_iff, Ne, Bool.and_eq_true]
    exact fun hi => hnone ⟨i, hi⟩
  · intro h hempty
    obtain ⟨i, hi⟩ := h
    rw [← Bool.and_eq_true, ← bit_inter, hempty, bit_empty] at hi
    cases hi

theorem isAll_iff : a.isAll = true ↔ ∀ c : Capability, c ∈ a := by
  rw [isAll, contains_iff]
  constructor
  · intro h c
    exact h c.index (by simp [c.index_lt])
  · intro h i hi
    rw [bit_all, decide_eq_true_iff] at hi
    obtain ⟨c, rfl⟩ := Capability.exists_index_eq hi
    exact h c

@[simp] theorem mem_members : c ∈ a.members ↔ c ∈ a := by
  have hbit : (a.bits &&& c.mask != 0) = a.intersects {c} := by
    rw [Bool.eq_iff_iff, bne_iff_ne, intersects, decide_eq_true_iff]
    exact not_congr (Capabilities.mk.injEq (a.bits &&& c.mask) 0).symm.to_iff
  rw [members, List.mem_filter, hbit, intersects_iff]
  simp [mem_iff, c.mem_all]

/-- A word is a set when it has no unknown bits, and the set holds that word. -/
theorem ofBits?_eq_some_iff {bits : UInt32} :
    ofBits? bits = some a ↔ a.bits = bits ∧ ∀ i, a.bit i = true → i < 19 := by
  have hknown : truncate a.bits = a ↔ ∀ i, a.bit i = true → i < 19 := by
    constructor
    · intro h i hi
      rw [← h, bit_truncate, Bool.and_eq_true, decide_eq_true_iff] at hi
      exact hi.2
    · intro h
      apply ext_bit
      intro i
      rw [bit_truncate]
      cases hi : a.bit i with
      | false => rfl
      | true => simp [h i hi]
  rw [← hknown, ofBits?]
  constructor
  · intro h
    split at h
    case isTrue htruncate =>
      obtain rfl := Option.some.inj h
      exact ⟨rfl, htruncate⟩
    case isFalse => cases h
  · intro h
    obtain ⟨rfl, htruncate⟩ := h
    rw [if_pos htruncate]

/-! ## Texts -/

/-- A set is made of what its text names: its members, and the unknown bits. -/
theorem of_members_union (a : Capabilities) : of a.members ∪ a \ all = a := by
  apply ext_bit
  intro i
  rw [bit_union, bit_sdiff, bit_all]
  by_cases hi : i < 19
  · obtain ⟨c, rfl⟩ := Capability.exists_index_eq hi
    have hmem : c ∈ of a.members ↔ c ∈ a := mem_of.trans mem_members
    rw [mem_iff, mem_iff, ← Bool.eq_iff_iff] at hmem
    simp [hmem, hi]
  · have hnone : (of a.members).bit i = false := by
      rw [bit_of, List.any_eq_false]
      intro c _
      have hlt := c.index_lt
      simp only [decide_eq_true_iff]
      omega
    simp [hnone, hi]

/-- Without unknown bits, the text of a set that is not empty names its members and nothing else. -/
theorem text_of_known (h : ∀ i, a.bit i = true → i < 19) (hne : a ≠ ∅) :
    a.text = "Capabilities(" ++ " | ".intercalate (a.members.map (·.name)) ++ ")" := by
  have hnone : a \ all = ∅ := by
    apply ext_bit
    intro i
    rw [bit_sdiff, bit_all, bit_empty]
    cases hi : a.bit i with
    | false => rfl
    | true => simp [h i hi]
  have hrest : a.bits &&& ~~~all.bits = 0 := congrArg bits hnone
  have hbits : a.bits ≠ 0 := fun hzero => hne (congrArg mk hzero)
  simp [text, hrest, hbits]

end Capabilities

end FlashBoot
