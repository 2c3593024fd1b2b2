import FlashBoot.Proofs.Boot
import FlashBoot.Proofs.Device.Identification
import FlashBoot.Proofs.Image.Ways

/-!
# Following an attempt

Attempts are alike when they differ in nothing but what the memory for their images holds
(`Attempt.Alike`). `Loader.boot_inStep` follows two such attempts on the bus at once, through
identification, recovery and both images, in any scope that has what they take
(`Loader.Prepares`, `Loader.Boots`): they do and log the same, report the same, and write the same
bytes (`SameReport`).
-/

namespace FlashBoot

/-! ## Attempts -/

/-- The attempts differ in nothing but what the destinations of their requests hold. -/
structure Attempt.Alike (a a' : Attempt) : Prop where
  signal : a.signal = a'.signal
  headers : a.headers = a'.headers
  image : a.image.Alike a'.image
  tree : Option.Rel Request.Alike a.tree a'.tree

theorem Attempt.Alike.refl (a : Attempt) : a.Alike a := by
  refine ⟨rfl, rfl, .refl _, ?_⟩
  cases a.tree with
  | none => exact .none
  | some r => exact .some (.refl r)

/-- The second requests of two attempts, before and after. -/
inductive SameTree : Option Request → Option Request → Option Request → Option Request → Prop
  | none : SameTree none none none none
  | some {r r' d d' : Request} : r.SameLoads r' d d' →
      SameTree (some r) (some r') (some d) (some d')

theorem SameTree.refl {r r' : Option Request} (h : Option.Rel Request.Alike r r') :
    SameTree r r' r r' := by
  cases h with
  | none => exact .none
  | some h => exact .some (.refl h)

/-- Reports of two attempts that end alike. -/
structure SameReport (a a' : Attempt) (report report' : Report) : Prop where
  result : report.result = report'.result
  image : a.image.SameLoads a'.image report.image report'.image
  tree : SameTree a.tree a'.tree report.tree report'.tree

variable {a a' : Attempt}

theorem Attempt.Alike.untouched (h : a.Alike a') (result : Except Failure BootResult) :
    SameReport a a' (a.untouched result) (a'.untouched result) :=
  ⟨rfl, .refl h.image, .refl h.tree⟩

/-- The attempt failed in this way. -/
def Report.Fails (r : Report) (e : Failure) : Prop := r.result = .error e

/-! ## Both images -/

theorem Flash.loadImages_inStep (f : Flash) (h : a.Alike a') :
    Drive.InStep (.loading f.geometry) Report.Fails (fun report report' _ =>
        SameReport a a' report report' ∧ report.result ≠ .ok .recoveryPerformed)
      (f.loadImages a) (f.loadImages a') := by
  obtain ⟨signal, headers, request, second⟩ := a
  obtain ⟨signal', headers', request', second'⟩ := a'
  obtain ⟨hsignal, hheaders, hrequest, hsecond⟩ := h
  dsimp only at hheaders hrequest hsecond
  subst hheaders
  unfold loadImages
  apply Drive.InStep.bind (f.loadImage_inStep headers hrequest)
  · intro image image' s hloads hnot
    have himage := hloads.sameDelivery hrequest
    rw [← himage.result]
    cases hr : image.result with
    | error e => exact absurd hr (hnot e)
    | ok n =>
      cases hsecond with
      | none => exact .pure nofun ⟨⟨rfl, himage.request, .none⟩, nofun⟩
      | some hsecond =>
        refine (f.loadImage_inStep headers hsecond).bind_of_settled
          (fun _ _ _ he he' => he.eq he') fun tree tree' s' hloads' => ?_
        have htree := hloads'.sameDelivery hsecond
        rw [← htree.result]
        cases ht : tree.result with
        | ok m =>
          refine .pure nofun ⟨fun e he => ?_, ⟨rfl, himage.request, .some htree.request⟩, nofun⟩
          cases ht.symm.trans he
        | error e =>
          refine .pure (fun e' he => ?_) ⟨fun e' he => ?_,
            ⟨rfl, himage.request, .some htree.request⟩, nofun⟩
          · exact ht.trans (congrArg _ (Except.error.inj he))
          · exact congrArg _ (Except.error.inj (ht.symm.trans he))
  · intro image image' s e hloads he
    have himage := hloads.sameDelivery hrequest
    rw [← himage.result, he]
    exact .pure (fun _ he' => (Except.error.inj he').symm)
      ⟨rfl, ⟨rfl, himage.request, .refl hsecond⟩, nofun⟩

namespace Loader

variable {l : Loader} {s : Drive.Scope} {signal : Signal}

/-! ## Before the images -/

/-- The scope has what an attempt with this signal takes before its images. -/
structure Prepares (l : Loader) (signal : Signal) (s : Drive.Scope) : Prop where
  identification : .identification (l.build.candidates l.config.customParts) ≤ s
  sampling : .sampling ≤ s
  erasing : l.build.recovery = true → signal.asserted = true → ∀ i, .erasing i ≤ s

theorem recover_confined (h : l.Prepares signal s) (f : Flash) :
    Run.Confined s (fun _ => True) (l.recover f signal) := by
  unfold recover
  split
  case isTrue hbuild =>
    exact f.recover_confined l.config h.sampling fun hasked => h.erasing hbuild hasked _
  case isFalse => exact .pure trivial

theorem prepare_confined (h : l.Prepares signal s) :
    Run.Confined s (fun ready => ready.1.Known l.config) (l.prepare signal) := by
  have hprobe : Run.Confined s (Flash.Known l.config) l.probe :=
    .logError (h.sampling.tells _ rfl) ((Flash.probe_confined _ _).widen h.identification)
  exact .bind hprobe fun f hf => .bind (recover_confined h f) fun _ _ => .pure hf

/-! ## The attempt on the bus -/

/-- The scope has what an attempt with this signal takes on the bus. -/
structure Boots (l : Loader) (signal : Signal) (s : Drive.Scope) : Prop
    extends l.Prepares signal s where
  loading : ∀ f : Flash, f.Known l.config → .loading f.geometry ≤ s

theorem boots_unbounded (l : Loader) (signal : Signal) : l.Boots signal .unbounded where
  identification := Drive.Scope.le_unbounded (Drive.Scope.not_fails_identification _)
  sampling := Drive.Scope.le_unbounded fun _ => False.elim
  erasing _ _ i := Drive.Scope.le_unbounded (Drive.Scope.not_fails_erasing i)
  loading f _ := Drive.Scope.le_unbounded (Drive.Scope.not_fails_loading f.geometry)

theorem boot_inStep (h : l.Boots a.signal s) (halike : a.Alike a') :
    Drive.InStep s Report.Fails (fun report report' _ => SameReport a a' report report')
      (l.boot a) (l.boot a') := by
  unfold boot
  rw [← halike.signal]
  apply Drive.InStep.bind (prepare_confined h.toPrepares)
  · intro ready ready' t hsettled hnot
    obtain ⟨rfl, hready⟩ := hsettled
    rcases ready with e | ⟨f, _ | _⟩
    · exact absurd rfl (hnot e)
    · exact .pure nofun (halike.untouched _)
    · have hloads := (f.loadImages_inStep halike).widen (h.loading f (hready _ rfl))
      exact hloads.mono fun _ _ _ hsame => hsame.1
  · intro ready ready' t e hsettled he
    obtain ⟨rfl, -⟩ := hsettled
    obtain rfl : ready = .error e := he
    exact .pure (fun _ he' => (Except.error.inj he').symm) ⟨rfl, halike.untouched _⟩

end Loader

end FlashBoot
