import FlashBoot.Proofs.Boot.Start
import FlashBoot.Proofs.Boot.Steady

/-!
# Two images in one attempt

`Loader.load_together`: on a steady board, an attempt with two images is the attempts to load each
of them alone, put together (`Report.Combines`). The first failure is the failure of the whole, and
nothing of the first image shows in what becomes of the second one, so they can be loaded in either
order, or in two attempts one after the other.
-/

namespace FlashBoot

/-- The report of an attempt with a second request, `tree`, next to the reports of the attempts to
load nothing but the first request and nothing but the second one. -/
structure Report.Combines (tree : Request) (both first second : Report) : Prop where
  image : both.image = first.image
  /-- The first attempt reports a failure or the length of its image. -/
  first_ends : (∃ e, first.result = .error e) ∨ ∃ n, first.result = .ok (.loaded n none)
  /-- When it fails the second request is not touched. -/
  first_fails : ∀ e, first.result = .error e → both.result = .error e ∧ both.tree = some tree
  loaded_iff : ∀ n m, both.result = .ok (.loaded n (some m)) ↔
    first.result = .ok (.loaded n none) ∧ second.result = .ok (.loaded m none)
  second_fails : ∀ n, first.result = .ok (.loaded n none) →
    ∀ e, both.result = .error e ↔ second.result = .error e
  second : ∀ n, first.result = .ok (.loaded n none) → both.tree = some second.image

/-- An attempt that fails before its images. -/
theorem Report.Combines.of_error {tree image : Request} (e : Failure) (second : Report) :
    Combines tree ⟨.error e, image, some tree⟩ ⟨.error e, image, none⟩ second where
  image := rfl
  first_ends := .inl ⟨e, rfl⟩
  first_fails _ h := by
    cases h
    exact ⟨rfl, rfl⟩
  loaded_iff _ _ := iff_of_false nofun fun h => nomatch h.1
  second_fails _ h := nomatch h
  second _ h := nomatch h

/-- Images that are loaded one after the other. -/
theorem Report.Combines.of_ok {tree image : Request} (n : UInt32) (d : Delivery) :
    Combines tree ⟨d.result.map fun m => .loaded n (some m), image, some d.request⟩
      ⟨.ok (.loaded n none), image, none⟩ ⟨d.result.map (.loaded · none), d.request, none⟩ := by
  refine ⟨rfl, .inr ⟨n, rfl⟩, nofun, fun k m => ?_, fun k _ e => ?_, fun _ _ => rfl⟩
  · cases d.result <;> simp [Except.map]
  · cases d.result <;> simp [Except.map]

/-- The attempt with its two requests the other way around. -/
def Attempt.swapped (a : Attempt) (tree : Request) : Attempt :=
  { a with image := tree, tree := some a.image }

theorem Flash.loadImages_combines {b : Board} (hb : b.Alike b) (f : Flash) {a : Attempt}
    {tree : Request} (htree : a.tree = some tree) :
    Report.Combines tree (f.loadImages a b).value (f.loadImages (a.only a.image) b).value
      (f.loadImages (a.only tree) b).value := by
  rw [loadImages_only rfl, loadImages_only rfl]
  cases hr : (f.loadImage a.headers a.image b).value.result with
  | error e =>
    rw [loadImages_of_error hr, htree]
    exact .of_error e _
  | ok n =>
    -- what the first image leaves of the board is as good for the second one as the board itself
    have hleft := (f.loadImage_steady a.headers a.image).board b hb
    rw [loadImages_of_tree rfl hr htree rfl,
      (f.loadImage_steady a.headers tree).value _ _ hleft.symm]
    exact .of_ok n _

namespace Loader

variable {l : Loader} {a : Attempt} {tree : Request} {b b₁ b₂ : Board}

theorem load_combines (hsignal : l.build.recovery = true → a.signal.asserted = false)
    (htree : a.tree = some tree) (hb : b.Alike b) :
    Report.Combines tree (l.load a b).value (l.load (a.only a.image) b).value
      (l.load (a.only tree) b).value := by
  cases l.start a.signal b with
  | stops result b' t unreached result_eq alarms_iff load_eq =>
    rw [load_eq a rfl, load_eq (a.only a.image) rfl, Attempt.untouched, htree]
    obtain ⟨e, rfl⟩ | ⟨-, hbuild, hasked⟩ := result_eq
    · exact .of_error e _
    · cases hasked.symm.trans (hsignal hbuild)
  | reaches f opening closing reached events alarms_opening alarms_closing load_eq =>
    have hprobe := (Flash.probe_steady l.build l.config).board b hb
    rw [load_eq a rfl, load_eq (a.only a.image) rfl, load_eq (a.only tree) rfl]
    exact f.loadImages_combines hprobe.symm.self htree

/-- On steady boards, two images are loaded together, in either order, as each of them is alone; and
every attempt leaves such a board for the next one. -/
theorem load_together (hsignal : l.build.recovery = true → a.signal.asserted = false)
    (htree : a.tree = some tree) (h₁ : b.Alike b₁) (h₂ : b.Alike b₂) :
    Report.Combines tree (l.load a b).value (l.load (a.only a.image) b₁).value
        (l.load (a.only tree) b₂).value ∧
      Report.Combines a.image (l.load (a.swapped tree) b).value (l.load (a.only tree) b₂).value
        (l.load (a.only a.image) b₁).value ∧
      ∀ a' : Attempt, a'.signal = a.signal → b.Alike (l.load a' b).board := by
  have hfirst := (load_steady (a := a.only a.image) hsignal).value b b₁ h₁
  have hsecond := (load_steady (a := a.only tree) hsignal).value b b₂ h₂
  rw [← hfirst, ← hsecond]
  refine ⟨load_combines hsignal htree h₁.self,
    load_combines (a := a.swapped tree) hsignal rfl h₁.self, fun a' ha' => ?_⟩
  exact (load_steady (ha' ▸ hsignal)).board b h₁.self

end Loader

/-! ## A kernel and a device tree from an M25P -/

/-- The second page of an M25P as a device tree. -/
def Request.secondPage : Request where
  kind := .deviceTree
  offset := 256
  destination := List.replicate 256 0
  length := none

/-- Both are loaded in one attempt as in two, one after the other. -/
theorem load_together_m25p :
    let both := { Attempt.kernel with tree := some Request.secondPage }
    let first := Loader.standard.load (both.only both.image) .m25p
    let second := Loader.standard.load (both.only .secondPage) first.board
    (Loader.standard.load both .m25p).value.result = .ok (.loaded 8 (some 8)) ∧
      Report.Combines .secondPage (Loader.standard.load both .m25p).value first.value
        second.value := by
  have hleft : Board.m25p.Alike (Loader.standard.load .kernel .m25p).board :=
    (Loader.load_steady fun _ => rfl).board _ Board.alike_m25p
  exact ⟨Run.eq_ok_of_toOption (by decide +kernel),
    (Loader.load_together (fun _ => rfl) rfl Board.alike_m25p hleft).1⟩

end FlashBoot
