import FlashBoot.Proofs.Boot
import FlashBoot.Proofs.Device.Identification
import FlashBoot.Proofs.Image.Delivery

/-!
# What an attempt loads

`Loader.load_eq_loaded`: on a board without faults, an attempt that identifies a linear device and
is not asked for recovery ends as the table of its requests says (`Attempt.loaded`): the image by
its own table (`Request.delivered`), and the second one likewise when the first succeeded. The
header parser is called for the images of unknown length whose first page could be read, once each
and in this order (`Attempt.asked`).
-/

namespace FlashBoot

namespace Attempt

/-- The report of an attempt by the tables of its requests. -/
def loaded (m : Memory) (reach page : Nat) (a : Attempt) : Report :=
  let image := a.image.delivered m reach page a.headers
  match image.result, a.tree with
  | .error failure, tree => ⟨.error failure, image.request, tree⟩
  | .ok length, none => ⟨.ok (.loaded length none), image.request, none⟩
  | .ok length, some request =>
    let tree := request.delivered m reach page a.headers
    ⟨tree.result.map fun treeLength => .loaded length (some treeLength), image.request,
      some tree.request⟩

/-- What the header parser is asked during an attempt. -/
def asked (m : Memory) (reach page : Nat) (a : Attempt) : List (ImageKind × List UInt8) :=
  a.image.asked m reach page ++
    match (a.image.delivered m reach page a.headers).result, a.tree with
    | .ok _, some tree => tree.asked m reach page
    | _, _ => []

end Attempt

theorem Flash.loadImages_goes {f : Flash} {b : Board} (hb : b.fourByte = f.geometry.fourByte)
    (hmode : f.geometry.mode = .linear) (a : Attempt) :
    ∃ es, headerCalls es = a.asked b.memory f.geometry.reach f.geometry.pageSize.toNat ∧
      Drive.Goes (f.loadImages a) b.quiet
        (a.loaded b.memory f.geometry.reach f.geometry.pageSize.toNat) b.quiet es := by
  obtain ⟨es, hheaders, himage⟩ := loadImage_goes hb hmode a.headers a.image
  unfold loadImages Attempt.loaded Attempt.asked
  cases hr : (a.image.delivered b.memory f.geometry.reach f.geometry.pageSize.toNat
    a.headers).result with
  | error failure =>
    refine ⟨es, by simp [hheaders], himage.bind_silent ?_⟩
    simp only [hr]
    exact .pure _ _
  | ok length =>
    cases ht : a.tree with
    | none =>
      refine ⟨es, by simp [hheaders], himage.bind_silent ?_⟩
      simp only [hr]
      exact .pure _ _
    | some tree =>
      obtain ⟨es', hheaders', htree⟩ := loadImage_goes hb hmode a.headers tree
      refine ⟨es ++ es', by simp [hheaders, hheaders'], himage.bind ?_⟩
      simp only [hr]
      exact htree.bind_silent (.pure _ _)

namespace Loader

variable {l : Loader} {a : Attempt} {b : Board} {f : Flash}

/-- What an attempt reports, leaves in its requests, and asks the header parser, on a board that
identifies as a linear device and decodes as many address bytes as are sent. -/
theorem load_eq_loaded (hfaults : b.faults = []) (hinit : l.controller ≠ .switched false)
    (hsignal : l.build.recovery = true → a.signal.asserted = false)
    (hprobe : (Flash.probe l.build l.config b).value = .ok f)
    (hmode : f.geometry.mode = .linear) (hbytes : b.fourByte = f.geometry.fourByte) :
    (l.load a b).value = a.loaded b.memory f.geometry.reach f.geometry.pageSize.toNat ∧
      headerCalls (l.load a b).events =
        a.asked b.memory f.geometry.reach f.geometry.pageSize.toNat := by
  -- identification leaves the array and its addressing as they were, and adds no fault
  have hkeeps := (Flash.probe_within l.build l.config).board b
  have hpath : Run.Goes (Flash.probe l.build l.config) b (.ok f)
      (Flash.probe l.build l.config b).board (Flash.probe l.build l.config b).events :=
    ⟨hprobe, rfl, rfl⟩
  obtain ⟨es, hheaders, hload⟩ := Flash.loadImages_goes (hkeeps.fourByte.trans hbytes) hmode a
  rw [Board.quiet_eq (hkeeps.faults hfaults), hkeeps.memory] at hload
  rw [hkeeps.memory] at hheaders
  have hgoes := load_goes hinit (boot_goes_of_not_requested hpath hsignal hload)
  refine ⟨hgoes.value, ?_⟩
  have hcalls : ∀ call, headerCalls (l.controller.calls call) = [] := by
    intro call
    unfold Controller.calls
    cases l.controller <;> rfl
  have hclose : ∀ trap : Bool,
      headerCalls (if trap then [] else l.controller.calls .disable) = [] := by
    intro trap
    cases trap with
    | true => rfl
    | false => exact hcalls .disable
  have hsamples : headerCalls (if l.build.recovery then a.signal.pinReads else []) = [] := by
    cases l.build.recovery <;> cases a.signal <;> rfl
  have hnone : headerCalls (Flash.probe l.build l.config b).events = [] :=
    headerCalls_of_sends (Flash.probe_sends l.build l.config b)
  rw [hgoes.events]
  simp only [headerCalls_append, hcalls, hclose, hsamples, hnone, List.nil_append, List.append_nil]
  exact hheaders

end Loader

/-! ## A kernel from an M25P -/

/-- A board with an M25P, which is known by its family only. -/
def Board.m25p : Board := { Board.blank with id := [0x20, 0x20] }

/-- That device, identified under the standard settings. -/
def Flash.m25p : Flash where
  descriptor := .ofFamily (.ofBytes [0x20, 0x20]) (.linear 16384 256) .nor
  maxTransfer := 0x10000

/-- A loader with the standard settings on a controller that needs nothing. -/
def Loader.standard : Loader := ⟨.standard, .standard, .alwaysOn⟩

/-- A kernel at the start of the array, whose header says that it has 8 bytes. -/
def Attempt.kernel : Attempt where
  signal := .activeLow .high
  headers := fun _ _ => some 8
  image := { kind := .kernel, offset := 0, destination := List.replicate 256 0, length := none }
  tree := none

theorem probe_m25p : (Flash.probe .standard .standard .m25p).value = .ok .m25p :=
  Run.eq_ok_of_toOption (by decide +kernel)

theorem load_eq_loaded_m25p :
    (Loader.standard.load .kernel .m25p).value =
      Attempt.kernel.loaded Board.m25p.memory Flash.m25p.geometry.reach
        Flash.m25p.geometry.pageSize.toNat ∧
    headerCalls (Loader.standard.load .kernel .m25p).events =
      Attempt.kernel.asked Board.m25p.memory Flash.m25p.geometry.reach
        Flash.m25p.geometry.pageSize.toNat :=
  Loader.load_eq_loaded rfl nofun (fun _ => rfl) probe_m25p rfl rfl

end FlashBoot
