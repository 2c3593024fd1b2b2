import FlashBoot.Proofs.Boot.Loading
import FlashBoot.Proofs.Boot.Start
import FlashBoot.Proofs.Flash.Alarms

/-!
# What a failed attempt logs

Every failure of an attempt is logged as an error where it arises or on its way up, except one: an
image whose length is not given and whose first page is refused before anything is sent for it
(`Flash.RefusesPage`), which fails without a word. `Loader.load_alarms_iff`: an attempt logs an
error exactly if it fails and this is not why (`Loader.Silent`).
-/

namespace FlashBoot

namespace Flash

variable {f : Flash}

/-! ## Images -/

/-- The length of the image is to be found in its first page, for which there is no room or which is
refused without a word. -/
def RefusesPage (f : Flash) (r : Request) : Prop :=
  r.length = none ∧ (r.destination.length < f.geometry.pageSize.toNat ∨
    f.RefusesSilently r.offset f.geometry.pageSize.toNat)

/-- The two errors that are reported for such an image. -/
def PageRefusal (e : Error) : Prop := e = .length ∨ e = .outOfBounds

end Flash

namespace Geometry

variable {g : Geometry} {n : UInt32} {headers : HeaderParser} {r r' : Request} {d d' : Delivery}
  {t : Trace}

/-- A copy logs an error exactly if it fails. -/
theorem Copies.alarms_iff (h : g.Copies n r r' d d' t) : t.alarms ≠ [] ↔ Run.Failed d.result := by
  cases h with
  | refused _ => exact iff_of_true (List.cons_ne_nil _ _) ⟨_, rfl⟩
  | copied _ _ _ hreads =>
    rw [Trace.alarms_message_of_not rfl]
    exact iff_of_false (fun h => h (Run.alarms_eq_nil hreads.calm rfl)) (Run.not_failed_ok _)
  | @failed e _ _ t _ _ _ hreads =>
    rw [Trace.alarms_message_of_not rfl, Trace.alarms_append]
    cases e with
    | error cause =>
      exact iff_of_true (List.append_ne_nil_of_right_ne_nil _ (List.cons_ne_nil _ _)) ⟨_, rfl⟩
    | trap _ =>
      refine ⟨fun h => (hreads.calm ?_).of_error, nofun⟩
      exact List.append_nil t.alarms ▸ h

theorem Finds.calm (h : g.Finds headers r r' d d' t) : t.alarms ≠ [] → Run.Failed d.result := by
  cases h with
  | short _ => exact absurd rfl
  | failed _ _ hreads => exact fun h => (hreads.calm h).of_error
  | found _ _ hreads _ =>
    rw [Trace.alarms_append, Run.alarms_eq_nil hreads.calm rfl]
    exact absurd rfl
  | invalid _ _ _ _ => exact fun _ => ⟨_, rfl⟩

theorem Loads.calm (h : g.Loads headers r r' d d' t) : t.alarms ≠ [] → Run.Failed d.result := by
  cases h with
  | given _ hcopies => exact hcopies.alarms_iff.1
  | unfound _ hfinds => exact hfinds.calm
  | @found _ _ _ _ _ s t _ hfinds hcopies =>
    rw [Trace.alarms_append, Run.alarms_eq_nil hfinds.calm rfl]
    exact hcopies.alarms_iff.1

end Geometry

namespace Flash

variable {f : Flash} {headers : HeaderParser} {r r' : Request} {d d' : Delivery} {t : Trace}

/-- Such an image is not even begun. -/
theorem RefusesPage.loads (h : f.RefusesPage r) (hf : f.descriptor.Addressable)
    (hloads : f.geometry.Loads headers r r' d d' t) :
    t = [] ∧ ∃ e, PageRefusal e ∧ d.result = .error (.error e) := by
  obtain ⟨hnone, h⟩ := h
  have hsilent : f.geometry.pageSize.toNat ≤ r.destination.length →
      f.RefusesSilently r.offset f.geometry.pageSize.toNat :=
    fun hroom => h.resolve_left (Nat.not_lt.2 hroom)
  have hnothing : ∀ {found found' : Delivery} {s : Trace},
      f.geometry.Finds headers r r' found found' s →
      s = [] ∧ ∃ e, PageRefusal e ∧ found.result = .error (.error e) := by
    intro found found' s hfinds
    cases hfinds with
    | short _ => exact ⟨rfl, .length, .inl rfl, rfl⟩
    | failed hroom _ hreads =>
      obtain ⟨he, rfl⟩ := (hsilent hroom).reads hf hreads
      exact ⟨rfl, .outOfBounds, .inr rfl, congrArg _ (Except.error.inj he)⟩
    | found hroom _ hreads _ => cases ((hsilent hroom).reads hf hreads).1
    | invalid hroom _ hreads _ => cases ((hsilent hroom).reads hf hreads).1
  cases hloads with
  | given hlength _ => cases hnone.symm.trans hlength
  | unfound _ hfinds => exact hnothing hfinds
  | found _ hfinds _ =>
    obtain ⟨-, e, -, he⟩ := hnothing hfinds
    cases he

/-- Any other image that cannot be loaded is logged as an error. -/
theorem told_of_loads (hf : f.descriptor.Known) (h : ¬ f.RefusesPage r)
    (hloads : f.geometry.Loads headers r r' d d' t) : Run.Failed d.result → t.alarms ≠ [] := by
  cases hloads with
  | given _ hcopies => exact hcopies.alarms_iff.2
  | found _ _ hcopies =>
    rw [Trace.alarms_append]
    exact fun he => List.append_ne_nil_of_right_ne_nil _ (hcopies.alarms_iff.2 he)
  | unfound hlength hfinds =>
    cases hfinds with
    | short hlt => exact absurd ⟨hlength, .inl hlt⟩ h
    | failed _ _ hreads =>
      have htold := told_of_reads hf (Nat.le_refl _) (fun hsilent => h ⟨hlength, .inr hsilent⟩)
        hreads
      exact fun he => htold he.of_error
    | invalid _ _ _ _ =>
      rw [Trace.alarms_append]
      exact fun _ => List.append_ne_nil_of_right_ne_nil _ (List.cons_ne_nil _ _)

end Flash

/-! ## Both images -/

namespace Flash

variable {f : Flash} {a : Attempt} {b : Board}

/-- The request that fails is one whose page is refused. -/
def Mutes (f : Flash) (a : Attempt) (b : Board) : Prop :=
  f.RefusesPage a.image ∨ (∃ n, (f.loadImage a.headers a.image b).value.result = .ok n) ∧
    ∃ tree, a.tree = some tree ∧ f.RefusesPage tree

theorem loadImages_of_mutes (hf : f.descriptor.Known) (h : f.Mutes a b) :
    (f.loadImages a b).trace.alarms = [] ∧
      ∃ e, PageRefusal e ∧ (f.loadImages a b).value.result = .error (.error e) := by
  obtain ⟨_, hfirst⟩ := f.loadImage_leaves a.headers a.image b
  obtain himage | ⟨⟨n, hn⟩, tree, htree, hpage⟩ := h
  · obtain ⟨htrace, e, he, hvalue⟩ := himage.loads hf.addressable hfirst
    rw [loadImages_of_error hvalue, htrace]
    exact ⟨rfl, e, he, rfl⟩
  · obtain ⟨_, hsecond⟩ := f.loadImage_leaves a.headers tree (f.loadImage a.headers a.image b).board
    obtain ⟨htrace, e, he, hvalue⟩ := hpage.loads hf.addressable hsecond
    rw [loadImages_of_tree rfl hn htree rfl, htrace, hvalue, List.append_nil]
    exact ⟨Run.alarms_eq_nil hfirst.calm hn, e, he, rfl⟩

theorem loadImages_alarms_iff (hf : f.descriptor.Known) :
    (f.loadImages a b).trace.alarms ≠ [] ↔
      Run.Failed (f.loadImages a b).value.result ∧ ¬ f.Mutes a b := by
  by_cases hmutes : f.Mutes a b
  · exact iff_of_false (fun h => h (loadImages_of_mutes hf hmutes).1) fun h => h.2 hmutes
  obtain ⟨_, hfirst⟩ := f.loadImage_leaves a.headers a.image b
  have htold := told_of_loads hf (fun h => hmutes (.inl h)) hfirst
  simp only [hmutes, not_false_eq_true, and_true]
  cases hr : (f.loadImage a.headers a.image b).value.result with
  | error e =>
    rw [loadImages_of_error hr]
    refine ⟨fun h => ?_, fun h => htold ?_⟩
    · exact (hr ▸ hfirst.calm h).of_error
    · exact hr ▸ h.of_error
  | ok n =>
    have hnone := Run.alarms_eq_nil hfirst.calm hr
    cases ht : a.tree with
    | none =>
      rw [loadImages_of_ok hr ht]
      exact iff_of_false (fun h => h hnone) (Run.not_failed_ok _)
    | some tree =>
      obtain ⟨_, hsecond⟩ :=
        f.loadImage_leaves a.headers tree (f.loadImage a.headers a.image b).board
      rw [loadImages_of_tree rfl hr ht rfl, Trace.alarms_append, hnone, List.nil_append,
        Run.failed_map_iff]
      exact ⟨hsecond.calm, told_of_loads hf (fun h => hmutes (.inr ⟨⟨n, hr⟩, tree, ht, h⟩)) hsecond⟩

end Flash

/-! ## The attempt -/

namespace Loader

variable {l : Loader} {a : Attempt} {b : Board} {f : Flash}

/-- The attempt gets to its images, and the request that fails there is one whose page is
refused: the first one, or the second one when the first one alone would have been loaded. -/
def Silent (l : Loader) (a : Attempt) (b : Board) : Prop :=
  ∃ f, l.Reaches a.signal b f ∧ (f.RefusesPage a.image ∨
    (∃ n, (l.load (a.only a.image) b).value.result = .ok (.loaded n none)) ∧
      ∃ tree, a.tree = some tree ∧ f.RefusesPage tree)

theorem load_of_silent (h : l.Silent a b) :
    (l.load a b).trace.alarms = [] ∧
      ∃ e, Flash.PageRefusal e ∧ (l.load a b).value.result = .error (.error e) := by
  obtain ⟨f', hf', h⟩ := h
  cases l.start a.signal b with
  | stops result b' t unreached result_eq alarms_iff load_eq => exact absurd hf' (unreached f')
  | reaches f opening closing reached events alarms_opening alarms_closing load_eq =>
    obtain rfl := reached.eq hf'
    rw [load_eq (a.only a.image) rfl, Outcome.value_between] at h
    simp only [Flash.loadImages_only_eq_loaded_iff] at h
    rw [load_eq a rfl]
    simpa [alarms_opening, alarms_closing] using Flash.loadImages_of_mutes reached.known h

/-- An attempt logs an error exactly if it fails, unless it is silent; one that is silent fails with
one of two errors. -/
theorem load_alarms_iff (l : Loader) (a : Attempt) (b : Board) :
    ((l.load a b).trace.alarms ≠ [] ↔
      Run.Failed (l.load a b).value.result ∧ ¬ l.Silent a b) ∧
    (l.Silent a b → ∃ e, Flash.PageRefusal e ∧
      (l.load a b).value.result = .error (.error e)) := by
  refine ⟨?_, fun h => (load_of_silent h).2⟩
  by_cases hsilent : l.Silent a b
  · exact iff_of_false (fun h => h (load_of_silent hsilent).1) fun h => h.2 hsilent
  cases l.start a.signal b with
  | stops result b' t unreached result_eq alarms_iff load_eq =>
    rw [load_eq a rfl]
    exact alarms_iff.trans (and_iff_left hsilent).symm
  | reaches f opening closing reached events alarms_opening alarms_closing load_eq =>
    have hmutes : ¬ f.Mutes a (Flash.probe l.build l.config b).board := by
      refine fun h => hsilent ⟨f, reached, ?_⟩
      rw [load_eq (a.only a.image) rfl, Outcome.value_between]
      simp only [Flash.loadImages_only_eq_loaded_iff]
      exact h
    have himages := Flash.loadImages_alarms_iff reached.known (a := a)
      (b := (Flash.probe l.build l.config b).board)
    rw [load_eq a rfl]
    simpa [alarms_opening, alarms_closing, hmutes, hsilent] using himages

end Loader

/-! ## A kernel of unknown length in half a page -/

/-- The kernel of an M25P, for memory that is smaller than a page. -/
def Attempt.kernelShort : Attempt :=
  { Attempt.kernel with
    image := { Attempt.kernel.image with destination := List.replicate 128 0x5A } }

/-- It fails, and nothing that is logged is an error. -/
theorem load_kernelShort :
    Run.Failed (Loader.standard.load .kernelShort .m25p).value.result ∧
      (Loader.standard.load .kernelShort .m25p).trace.alarms = [] := by
  have hsilent : Loader.standard.Silent .kernelShort .m25p :=
    ⟨.m25p, ⟨nofun, probe_m25p, fun _ => rfl⟩, .inl ⟨rfl, .inl (by decide +kernel)⟩⟩
  obtain ⟨hnone, e, -, he⟩ := Loader.load_of_silent hsilent
  exact ⟨⟨e, he⟩, hnone⟩

end FlashBoot
