import FlashBoot.Proofs.Image.Header

/-!
# Which headers are accepted

The formats once more, by the bytes: a format is a condition on the numbers that its words write
and on how many bytes there are (`ReadsUimage`, `ReadsZimage`, `ReadsTree`).
`standardHeaders_accepts` says what the standard parser makes of them (`Header.Accepts`).

* The words that are read are these numbers, so the parser of a format accepts what the format says
  (`uimageLength?_iff`, `zimageLength?_iff`, `treeLength?_iff`).
* A word depends on no byte behind it, so a parser depends on the bytes up to the end of its last
  word (`uimageLength?_take`, ...).
* `bigEndianAt_overwrite` and `bigEndianAt_overwrite_before`: a number that is written over a header
  is read back, and those before it are as they were.
-/

namespace FlashBoot

/-! ## Numbers that are written -/

namespace Word

variable {bytes written : List UInt8} {start : Nat}

/-- The byte string with other bytes from a position on. -/
def overwrite (bytes : List UInt8) (start : Nat) (written : List UInt8) : List UInt8 :=
  bytes.take start ++ (written ++ bytes.drop (start + written.length))

theorem length_overwrite (h : start + written.length ≤ bytes.length) :
    (overwrite bytes start written).length = bytes.length := by
  simp only [overwrite, List.length_append, List.length_take, List.length_drop]
  omega

/-- A number that was written is read back. -/
theorem bigEndianAt_overwrite (h : start ≤ bytes.length) {number : Nat} (hlt : number < 2 ^ 32) :
    bigEndianAt (overwrite bytes start (addressBytes 4 number)) start = number := by
  rw [bigEndianAt, wordAt, overwrite, List.drop_left' (List.length_take_of_le h),
    List.take_left' (length_addressBytes ..), numberOf_addressBytes hlt]

/-- A number in front of what was written is as it was. -/
theorem bigEndianAt_overwrite_before (h : start ≤ bytes.length) {position : Nat}
    (hposition : position + 4 ≤ start) :
    bigEndianAt (overwrite bytes start written) position = bigEndianAt bytes position := by
  rw [bigEndianAt, ← wordAt_take hposition, overwrite,
    List.take_left' (List.length_take_of_le h), wordAt_take hposition, bigEndianAt]

end Word

namespace Header

open Word

variable {header : List UInt8} {k : Nat} {n : UInt32}

/-! ## Formats -/

/-- The header of a legacy U-Boot image of `n` bytes, its own 64 among them. -/
structure ReadsUimage (header : List UInt8) (n : Nat) : Prop where
  complete : 16 ≤ header.length
  magic : bigEndianAt header 0 = uimageMagic.toNat
  /-- The sum is a word. -/
  fits : bigEndianAt header 12 + 64 < 2 ^ 32
  total : n = bigEndianAt header 12 + 64

/-- The header of an ARM zImage of `n` bytes. -/
structure ReadsZimage (header : List UInt8) (n : Nat) : Prop where
  complete : 48 ≤ header.length
  magic : littleEndianAt header 0x24 = zimageMagic.toNat
  /-- The image does not end before it starts. -/
  ordered : littleEndianAt header 0x28 ≤ littleEndianAt header 0x2C
  total : n = littleEndianAt header 0x2C - littleEndianAt header 0x28

/-- The header of a flattened device tree of `n` bytes, at least 40 of them its own. -/
structure ReadsTree (header : List UInt8) (n : Nat) : Prop where
  complete : 8 ≤ header.length
  magic : bigEndianAt header 0 = treeMagic.toNat
  total : n = bigEndianAt header 4
  holdsHeader : 40 ≤ n

theorem uimageLength?_iff : uimageLength? header = some n ↔ ReadsUimage header n.toNat := by
  rw [uimageLength?_eq_some_iff, bigEndian?_eq_some_iff]
  constructor
  · rintro ⟨⟨-, hmagic⟩, size, hsize, hn⟩
    obtain ⟨hlen, hsize⟩ := bigEndian?_eq_some_iff.1 hsize
    have hlt := n.toNat_lt
    exact ⟨hlen, hmagic.symm, by omega, by omega⟩
  · rintro ⟨hlen, hmagic, -, hn⟩
    obtain ⟨size, hsize⟩ := exists_bigEndian? hlen
    have hnumber := (bigEndian?_eq_some_iff.1 hsize).2
    exact ⟨⟨by omega, hmagic.symm⟩, size, hsize, by omega⟩

theorem zimageLength?_iff : zimageLength? header = some n ↔ ReadsZimage header n.toNat := by
  rw [zimageLength?_eq_some_iff, littleEndian?_eq_some_iff]
  constructor
  · rintro ⟨⟨-, hmagic⟩, start, stop, hstart, hstop, hn⟩
    obtain ⟨-, hstart⟩ := littleEndian?_eq_some_iff.1 hstart
    obtain ⟨hlen, hstop⟩ := littleEndian?_eq_some_iff.1 hstop
    exact ⟨hlen, hmagic.symm, by omega, by omega⟩
  · rintro ⟨hlen, hmagic, hordered, hn⟩
    obtain ⟨start, hstart⟩ := exists_littleEndian? (show 0x28 + 4 ≤ header.length by omega)
    obtain ⟨stop, hstop⟩ := exists_littleEndian? hlen
    have hstartNumber := (littleEndian?_eq_some_iff.1 hstart).2
    have hstopNumber := (littleEndian?_eq_some_iff.1 hstop).2
    exact ⟨⟨by omega, hmagic.symm⟩, start, stop, hstart, hstop, by omega⟩

theorem treeLength?_iff : treeLength? header = some n ↔ ReadsTree header n.toNat := by
  rw [treeLength?_eq_some_iff, bigEndian?_eq_some_iff, bigEndian?_eq_some_iff]
  constructor
  · rintro ⟨⟨-, hmagic⟩, ⟨hlen, hn⟩, hle⟩
    exact ⟨hlen, hmagic.symm, hn, hle⟩
  · rintro ⟨hlen, hmagic, hn, hle⟩
    exact ⟨⟨by omega, hmagic.symm⟩, ⟨hlen, hn⟩, hle⟩

/-- A reading of a header as a U-Boot image has a length that is a word. -/
theorem ReadsUimage.exists_word {m : Nat} (h : ReadsUimage header m) :
    ∃ n, uimageLength? header = some n := by
  have hm : (UInt32.ofNat m).toNat = m := toNat_ofNat (by rw [h.total]; exact h.fits)
  exact ⟨.ofNat m, uimageLength?_iff.2 (hm.symm ▸ h)⟩

/-! ## Bytes that do not matter -/

theorem uimageLength?_take (h : 16 ≤ k) :
    uimageLength? (header.take k) = uimageLength? header := by
  rw [uimageLength?, bigEndian?_take (by omega), bigEndian?_take (by omega), uimageLength?]

theorem zimageLength?_take (h : 48 ≤ k) :
    zimageLength? (header.take k) = zimageLength? header := by
  rw [zimageLength?, littleEndian?_take (by omega), littleEndian?_take (by omega),
    littleEndian?_take (by omega), zimageLength?]

theorem treeLength?_take (h : 8 ≤ k) : treeLength? (header.take k) = treeLength? header := by
  rw [treeLength?, bigEndian?_take (by omega), bigEndian?_take (by omega), treeLength?]

/-! ## The standard parser -/

theorem standardHeaders_kernel_of_some (h : uimageLength? header = some n) :
    standardHeaders .kernel header = some n := by
  rw [standardHeaders, h]
  rfl

theorem standardHeaders_kernel_of_none (h : uimageLength? header = none) :
    standardHeaders .kernel header = zimageLength? header := by
  rw [standardHeaders, h]
  rfl

theorem standardHeaders_kernel_iff : standardHeaders .kernel header = some n ↔
    ReadsUimage header n.toNat ∨
      (∀ m, ¬ ReadsUimage header m) ∧ ReadsZimage header n.toNat := by
  cases hu : uimageLength? header with
  | some l =>
    have hreads := uimageLength?_iff.1 hu
    rw [standardHeaders_kernel_of_some hu, ← uimageLength?_iff, hu]
    exact ⟨.inl, fun h => h.resolve_right fun h => h.1 _ hreads⟩
  | none =>
    have hnone (m : Nat) : ¬ ReadsUimage header m := by
      intro h
      obtain ⟨n, hn⟩ := h.exists_word
      rw [hu] at hn
      cases hn
    rw [standardHeaders_kernel_of_none hu, zimageLength?_iff]
    exact ⟨fun h => .inr ⟨hnone, h⟩, fun h => (h.resolve_left (hnone _)).2⟩

/-- The first 16 bytes of a U-Boot image tell its length. -/
example : standardHeaders .kernel
    [0x27, 0x05, 0x19, 0x56, 0, 0, 0, 0, 0, 0, 0, 0, 0x00, 0x30, 0x00, 0x00] = some 0x300040 := by
  decide

theorem standardHeaders_append {kind : ImageKind} (h : standardHeaders kind header = some n)
    (more : List UInt8) : standardHeaders kind (header ++ more) = some n := by
  have htake : (header ++ more).take header.length = header := List.take_left
  cases kind with
  | kernel =>
    rcases standardHeaders_kernel_iff.1 h with hu | ⟨-, hz⟩
    · -- the words of a zImage, which may begin only in `more`, are not looked at
      refine standardHeaders_kernel_of_some ?_
      rw [← uimageLength?_take hu.complete, htake, uimageLength?_iff]
      exact hu
    · have hlen := hz.complete
      rw [standardHeaders, ← uimageLength?_take (k := header.length) (by omega),
        ← zimageLength?_take hlen, htake]
      exact h
  | deviceTree =>
    have htree : ReadsTree header n.toNat := treeLength?_iff.1 h
    rw [standardHeaders, ← treeLength?_take htree.complete, htake]
    exact h

theorem sizeWritten_read {size : Nat} (hlen : 16 ≤ header.length)
    (hmagic : bigEndianAt header 0 = uimageMagic.toNat) (hsize : size < 2 ^ 32 - 64) :
    standardHeaders .kernel (overwrite header 12 (addressBytes 4 size)) =
      some (.ofNat (size + 64)) := by
  have hlength : (overwrite header 12 (addressBytes 4 size)).length = header.length :=
    length_overwrite (by rw [length_addressBytes]; exact hlen)
  have hnumber : bigEndianAt (overwrite header 12 (addressBytes 4 size)) 12 = size :=
    bigEndianAt_overwrite (by omega) (by omega)
  have hkept : bigEndianAt (overwrite header 12 (addressBytes 4 size)) 0 = bigEndianAt header 0 :=
    bigEndianAt_overwrite_before (by omega) (by omega)
  have hword : (UInt32.ofNat (size + 64)).toNat = size + 64 := toNat_ofNat (by omega)
  exact standardHeaders_kernel_iff.2 (.inl ⟨by omega, hkept.trans hmagic, by omega, by omega⟩)

theorem totalWritten_read {total : Nat} (hlen : 8 ≤ header.length)
    (hmagic : bigEndianAt header 0 = treeMagic.toNat) (hle : 40 ≤ total) (hlt : total < 2 ^ 32) :
    standardHeaders .deviceTree (overwrite header 4 (addressBytes 4 total)) =
      some (.ofNat total) := by
  have hlength : (overwrite header 4 (addressBytes 4 total)).length = header.length :=
    length_overwrite (by rw [length_addressBytes]; exact hlen)
  have hnumber : bigEndianAt (overwrite header 4 (addressBytes 4 total)) 4 = total :=
    bigEndianAt_overwrite (by omega) hlt
  have hkept : bigEndianAt (overwrite header 4 (addressBytes 4 total)) 0 = bigEndianAt header 0 :=
    bigEndianAt_overwrite_before (by omega) (by omega)
  have hword : (UInt32.ofNat total).toNat = total := toNat_ofNat hlt
  exact treeLength?_iff.2 ⟨by omega, hkept.trans hmagic, by omega, by omega⟩

/-- What the standard parser makes of a header. -/
structure Accepts (header : List UInt8) : Prop where
  /-- A kernel is a U-Boot image, or a zImage if it is none. -/
  kernel : ∀ n, standardHeaders .kernel header = some n ↔
    ReadsUimage header n.toNat ∨ (∀ m, ¬ ReadsUimage header m) ∧ ReadsZimage header n.toNat
  deviceTree : ∀ n, standardHeaders .deviceTree header = some n ↔ ReadsTree header n.toNat
  /-- The bytes behind the last word of a format do not matter. -/
  kernelPrefix : standardHeaders .kernel (header.take 48) = standardHeaders .kernel header
  treePrefix : standardHeaders .deviceTree (header.take 8) = standardHeaders .deviceTree header
  /-- A header that is recognised stays so in front of any bytes. -/
  appended : ∀ kind n more, standardHeaders kind header = some n →
    standardHeaders kind (header ++ more) = some n
  /-- The header of a U-Boot image is never that of a device tree. -/
  exclusive : ∀ n, ReadsUimage header n → standardHeaders .deviceTree header = none
  /-- A size written into the header of a U-Boot image is read back with the 64 bytes of the
  header. -/
  sizeWritten : ∀ size, 16 ≤ header.length → bigEndianAt header 0 = uimageMagic.toNat →
    size < 2 ^ 32 - 64 →
    standardHeaders .kernel (overwrite header 12 (addressBytes 4 size)) = some (.ofNat (size + 64))
  /-- A total written into the header of a device tree is read back. -/
  totalWritten : ∀ total, 8 ≤ header.length → bigEndianAt header 0 = treeMagic.toNat →
    40 ≤ total → total < 2 ^ 32 →
    standardHeaders .deviceTree (overwrite header 4 (addressBytes 4 total)) = some (.ofNat total)

theorem standardHeaders_accepts (header : List UInt8) : Accepts header := by
  refine ⟨fun _ => standardHeaders_kernel_iff, fun _ => treeLength?_iff, ?_,
    treeLength?_take (Nat.le_refl 8), fun _ _ more h => standardHeaders_append h more,
    fun n hu => ?_, fun _ => sizeWritten_read, fun _ => totalWritten_read⟩
  · rw [standardHeaders, uimageLength?_take (by omega), zimageLength?_take (Nat.le_refl 48),
      standardHeaders]
  · refine Option.eq_none_iff_forall_ne_some.2 fun m h => ?_
    have htree : ReadsTree header m.toNat := treeLength?_iff.1 h
    exact absurd (hu.magic.symm.trans htree.magic) (by decide)

end Header

end FlashBoot
