import FlashBoot.Proofs.Boot.Start
import FlashBoot.Proofs.Boot.Steady
import FlashBoot.Proofs.Image.Changes

/-!
# Lengths that are found and lengths that are given

`Loader.load_given`: on a steady board, loading an image whose length had to be found and loading it
with that length given go alike, but for the first page and the call of the header parser. The
destination holds that page when the image is copied over it, and has no more to do with it
(`Geometry.Copies.same`), so loading again what was loaded changes nothing.
-/

namespace FlashBoot

namespace Request

variable {r : Request} {n : UInt32} {bytes : List UInt8}

theorem take_completed (h : bytes.length = n.toNat) :
    (r.completed n bytes).destination.take n.toNat = bytes := by
  rw [← h]
  exact List.take_left

/-- Copying the same image once more. -/
theorem completed_completed (h : bytes.length = n.toNat) :
    (r.completed n bytes).completed n bytes = r.completed n bytes := by
  have hdrop : (bytes ++ r.destination.drop n.toNat).drop n.toNat = r.destination.drop n.toNat := by
    rw [← h]
    exact List.drop_left
  simp only [completed, hdrop]

/-- Another request for the image: as much room for it, and its length is given. -/
structure Gives (n : UInt32) (r r' : Request) : Prop where
  offset : r'.offset = r.offset
  room : r'.destination.length = r.destination.length
  length : r'.length = some n

end Request

/-- Two copies of the same image of length `n`. -/
structure SameCopy (n : UInt32) (r r' : Request) (d d' : Delivery) : Prop where
  result : d.result = d'.result
  bytes : ∀ m, d.result = .ok m → ∃ bytes : List UInt8, bytes.length = n.toNat ∧
    d.request = r.completed n bytes ∧ d'.request = r'.completed n bytes

theorem Geometry.Copies.same {g : Geometry} {n : UInt32} {r r' : Request} {d d' : Delivery}
    {t : Trace} (h : g.Copies n r r' d d' t) : SameCopy n r r' d d' := by
  cases h with
  | refused _ => exact ⟨rfl, nofun⟩
  | copied _ _ hlength _ => exact ⟨rfl, fun _ _ => ⟨_, hlength, rfl, rfl⟩⟩
  | failed _ _ _ _ => exact ⟨rfl, nofun⟩

namespace Flash

variable {f : Flash} {r r' : Request} {b : Board} {n : UInt32} {headers : HeaderParser}

/-- A length that is found takes the read of a page and one call of the parser. -/
theorem discoverLength_of_ok {page : Outcome Transfer}
    (hpage : f.read r.offset (r.destination.take f.geometry.pageSize.toNat) b = page)
    (h : (f.discoverLength headers r b).value.result = .ok n) :
    headers r.kind page.value.buffer = some n ∧ (f.discoverLength headers r b).trace =
      page.trace ++ [.event (.header r.kind page.value.buffer)] := by
  unfold discoverLength at h ⊢
  by_cases hroom : r.destination.length < f.geometry.pageSize.toNat
  · simp [hroom] at h
  simp only [hroom, if_false, Drive.bind_apply, hpage] at h ⊢
  cases hr : page.value.result with
  | error e => simp [hr] at h
  | ok _ =>
    simp only [hr, Drive.bind_apply, parseHeader, Drive.emit_apply, Drive.pure_apply] at h ⊢
    cases hh : headers r.kind page.value.buffer with
    | none => simp [hh, Drive.bind_apply] at h
    | some m =>
      simp only [hh, Drive.pure_apply] at h ⊢
      obtain rfl := Except.ok.inj h
      exact ⟨rfl, rfl⟩

/-- An image whose length is looked for is loaded only if that is found and the copy succeeds. -/
theorem loadImage_of_ok (hlength : r.length = none)
    (h : (f.loadImage headers r b).value.result = .ok n) {found : Outcome Delivery}
    (hfound : f.discoverLength headers r b = found) {copy : Outcome Delivery}
    (hcopy : f.copyImage found.value.request n found.board = copy) :
    found.value.result = .ok n ∧
      f.loadImage headers r b = ⟨copy.value, copy.board, found.trace ++ copy.trace⟩ := by
  cases hr : found.value.result with
  | error e => simp [loadImage, hlength, Drive.bind_apply, hfound, hr] at h
  | ok m =>
    have hload : f.loadImage headers r b =
        ⟨(f.copyImage found.value.request m found.board).value,
          (f.copyImage found.value.request m found.board).board,
          found.trace ++ (f.copyImage found.value.request m found.board).trace⟩ := by
      simp only [loadImage, hlength, Drive.bind_apply, hfound, hr]
    rw [hload] at h
    obtain ⟨_, hcopies⟩ := (f.copyImage_inStep m rfl rfl).leaves found.board
    obtain ⟨rfl, -⟩ := hcopies.toCopied.ok n h
    exact ⟨rfl, hcopy ▸ hload⟩

/-- An image of unknown length is loaded like one of the length that is found for it. -/
theorem loadImage_given (hb : b.Alike b) (hlength : r.length = none)
    (h : (f.loadImage headers r b).value.result = .ok n) {page : Outcome Transfer}
    (hpage : f.read r.offset (r.destination.take f.geometry.pageSize.toNat) b = page) :
    headers r.kind page.value.buffer = some n ∧ ∃ (r₀ : Request) (rest : Trace),
      (f.loadImage headers r b).trace =
        page.trace ++ (.event (.header r.kind page.value.buffer) :: rest) ∧
      ∀ r' : Request, r.Gives n r' → (f.loadImage headers r' b).trace = rest ∧
        SameCopy n r₀ r' (f.loadImage headers r b).value (f.loadImage headers r' b).value := by
  obtain ⟨hfound, hload⟩ := loadImage_of_ok hlength h rfl rfl
  obtain ⟨hheader, htrace⟩ := discoverLength_of_ok hpage hfound
  have hleft := (f.discoverLength_steady headers r).board b hb
  obtain ⟨_, hfinds⟩ := (f.discoverLength_inStep headers (.refl r)).leaves b
  have hwrites := hfinds.toFound.writes
  generalize f.discoverLength headers r b = found at *
  refine ⟨hheader, found.value.request, (f.copyImage found.value.request n found.board).trace, ?_,
    fun r' hr' => ?_⟩
  · rw [hload, htrace, List.append_assoc]
    rfl
  · obtain ⟨hcopies, -, hsame⟩ := (f.copyImage_inStep n (hwrites.offset.trans hr'.offset.symm)
      (hwrites.room.trans hr'.room.symm)).both found.board
    have hsteady := f.copyImage_steady r' n
    rw [hload]
    simp only [loadImage, hr'.length]
    rw [hsteady.trace b _ hleft, hsteady.value b _ hleft]
    exact ⟨hsame.symm, hcopies.same⟩

/-- Loading what was loaded once more. -/
theorem loadImage_again (hb : b.Alike b) (hlength : r.length = none)
    (h : (f.loadImage headers r b).value.result = .ok n) :
    r.Gives n (f.loadImage headers r b).value.request ∧
      (f.loadImage headers (f.loadImage headers r b).value.request b).value =
        (f.loadImage headers r b).value := by
  have hchanges := f.loadImage_changes headers r b
  simp only [h] at hchanges
  have hgives : r.Gives n (f.loadImage headers r b).value.request :=
    ⟨hchanges.offset, hchanges.room, hchanges.length⟩
  obtain ⟨-, r₀, rest, -, hsame⟩ := loadImage_given hb hlength h rfl
  obtain ⟨hresult, hbytes⟩ := (hsame _ hgives).2
  obtain ⟨bytes, hlen, hfirst, hsecond⟩ := hbytes n h
  have hrequest := hsecond.trans (hfirst ▸ Request.completed_completed hlen)
  refine ⟨hgives, ?_⟩
  calc (f.loadImage headers (f.loadImage headers r b).value.request b).value
    _ = ⟨_, _⟩ := rfl
    _ = ⟨(f.loadImage headers r b).value.result, (f.loadImage headers r b).value.request⟩ := by
      rw [← hresult, hrequest]

end Flash

/-! ## The attempt -/

namespace Loader

variable {l : Loader} {a : Attempt} {b b' : Board}

/-- Attempts to load a single request differ in the loading only, when one of them succeeds. -/
theorem load_only_of_loaded {r : Request} {n : UInt32}
    (h : (l.load (a.only r) b).value.result = .ok (.loaded n none)) :
    ∃ (f : Flash) (opening closing : Trace),
      (Flash.probe l.build l.config b).value = .ok f ∧
      (f.loadImage a.headers r (Flash.probe l.build l.config b).board).value.result = .ok n ∧
      ∀ r', l.load (a.only r') b = (f.loadImages (a.only r')
        (Flash.probe l.build l.config b).board).between opening closing := by
  cases l.start a.signal b with
  | stops result b' t unreached result_eq alarms_iff load_eq =>
    rw [load_eq (a.only r) rfl] at h
    obtain ⟨e, rfl⟩ | ⟨rfl, -⟩ := result_eq
    · cases h
    · cases h
  | reaches f opening closing reached events alarms_opening alarms_closing load_eq =>
    rw [load_eq (a.only r) rfl] at h
    exact ⟨f, opening, closing, reached.probe, Flash.loadImages_only_eq_loaded_iff.1 h,
      fun r' => load_eq (a.only r') rfl⟩

/-- On steady boards, an attempt to load an image of unknown length that loads `n` bytes goes like
one with this length given, but for the first page and the call of the header parser. Loading again
what was loaded changes nothing. -/
theorem load_given (hsignal : l.build.recovery = true → a.signal.asserted = false)
    (hb : b.Alike b') (htree : a.tree = none) (hlength : a.image.length = none) {n : UInt32}
    (hloaded : (l.load a b).value.result = .ok (.loaded n none)) :
    ∃ (f : Flash) (page : Outcome Transfer) (opening rest : Trace),
      (Flash.probe l.build l.config b).value = .ok f ∧
      page = f.read a.image.offset (a.image.destination.take f.geometry.pageSize.toNat)
        (Flash.probe l.build l.config b).board ∧
      a.headers a.image.kind page.value.buffer = some n ∧
      (l.load a b).trace = opening ++
        (page.trace ++ (.event (.header a.image.kind page.value.buffer) :: rest)) ∧
      (∀ r, a.image.Gives n r →
        (l.load (a.only r) b').value.result = .ok (.loaded n none) ∧
        (l.load (a.only r) b').value.image.destination.take n.toNat =
          (l.load a b).value.image.destination.take n.toNat ∧
        (l.load (a.only r) b').trace = opening ++ rest) ∧
      (l.load (a.only (l.load a b).value.image) b').value = (l.load a b).value := by
  have hsteady : ∀ r, (l.load (a.only r)).Steady := fun r => load_steady hsignal
  have hprobe : (Flash.probe l.build l.config b).board.Alike
      (Flash.probe l.build l.config b).board :=
    ((Flash.probe_steady l.build l.config).board b hb.self).symm.self
  have honly : l.load a b = l.load (a.only a.image) b := by
    obtain ⟨signal, headers, image, tree⟩ := a
    cases htree
    rfl
  rw [honly] at hloaded ⊢
  obtain ⟨f, opening, closing, hf, hn, hload⟩ := load_only_of_loaded hloaded
  obtain ⟨hheader, r₀, rest, htrace, hsame⟩ := Flash.loadImage_given hprobe hlength hn rfl
  have hagain := (Flash.loadImage_again hprobe hlength hn).2
  simp only [← (hsteady _).value b b' hb, ← (hsteady _).trace b b' hb, hload,
    Flash.loadImages_only rfl, Outcome.value_between, Outcome.trace_between]
  refine ⟨f, _, opening, rest ++ closing, hf, rfl, hheader, ?_, fun r hr => ?_, ?_⟩
  · simp only [htrace, List.append_assoc, List.cons_append]
  · obtain ⟨hrest, hresult, hbytes⟩ := hsame r hr
    obtain ⟨bytes, hlen, himage, hr⟩ := hbytes n hn
    refine ⟨?_, ?_, ?_⟩
    · rw [← hresult, hn]
      rfl
    · rw [himage, hr, Request.take_completed hlen, Request.take_completed hlen]
    · rw [hrest]
  · rw [hagain]

end Loader

/-- The kernel of an M25P, with its length given or found and loaded once more. -/
theorem load_given_m25p :
    let first := Loader.standard.load .kernel .m25p
    let given := { Attempt.kernel.image with length := some 8 }
    first.value.result = .ok (.loaded 8 none) ∧
      (Loader.standard.load (Attempt.kernel.only given) .m25p).value.result =
        .ok (.loaded 8 none) ∧
      (Loader.standard.load (Attempt.kernel.only first.value.image) .m25p).value = first.value := by
  have hgives : Attempt.kernel.image.Gives 8 { Attempt.kernel.image with length := some 8 } :=
    ⟨rfl, rfl, rfl⟩
  have hloaded : (Loader.standard.load .kernel .m25p).value.result = .ok (.loaded 8 none) :=
    Run.eq_ok_of_toOption (by decide +kernel)
  obtain ⟨f, page, opening, rest, -, -, -, -, hgiven, hagain⟩ :=
    Loader.load_given (fun _ => rfl) Board.alike_m25p rfl rfl hloaded
  exact ⟨hloaded, (hgiven _ hgives).1, hagain⟩

end FlashBoot
