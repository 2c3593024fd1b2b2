import FlashBoot.Proofs.Boot.Start
import FlashBoot.Proofs.Image.Changes

/-!
# What an attempt changes

`Loader.load_changes`: an attempt that does not get to its images leaves its requests alone. One
that does changes no more of each of them than a load may (`Request.Changes`), and the second one
only when the first one was loaded; what it leaves of the first one does not depend on whether there
is a second one (`Attempt.Changes`).
-/

namespace FlashBoot

namespace Report

/-- The length that is reported of the first image. -/
def imageLength (r : Report) : Option UInt32 :=
  match r.result with
  | .ok (.loaded n _) => some n
  | _ => none

/-- The length that is reported of the second image. -/
def treeLength (r : Report) : Option UInt32 :=
  match r.result with
  | .ok (.loaded _ n) => n
  | _ => none

variable {r : Except Failure UInt32} {n m : UInt32} {image : Request} {tree : Option Request}

theorem eq_of_imageLength_map
    (h : imageLength ⟨r.map fun k => .loaded n (some k), image, tree⟩ = some m) : n = m := by
  cases r with
  | error e => cases h
  | ok k => exact Option.some.inj h

theorem treeLength_map :
    treeLength ⟨r.map fun k => .loaded n (some k), image, tree⟩ = r.toOption := by
  cases r <;> rfl

end Report

/-- What an attempt that gets to its images leaves of its requests, next to what the attempt to load
nothing but the first image would have left (`alone`). -/
structure Attempt.Changes (page : Nat) (a : Attempt) (alone both : Outcome Report) : Prop where
  image_eq : both.value.image = alone.value.image
  imageLength : ∀ n, both.value.imageLength = some n → alone.value.imageLength = some n
  image : a.image.Changes page a.headers (headerCalls alone.events) (arrivals alone.events)
    alone.value.imageLength alone.value.image
  /-- The second request is not touched unless the first image was loaded. -/
  tree_eq : a.tree = none ∨ alone.value.imageLength = none → both.value.tree = a.tree
  tree : ∀ n r, alone.value.imageLength = some n → a.tree = some r →
    ∃ after calls arrived, both.value.tree = some after ∧
      headerCalls both.events = headerCalls alone.events ++ calls ∧
      arrivals both.events = arrivals alone.events + arrived ∧
      r.Changes page a.headers calls arrived both.value.treeLength after

namespace Flash

variable {f : Flash} {a : Attempt} {b : Board}

theorem loadImages_changes (f : Flash) (a : Attempt) (b : Board) :
    a.Changes f.geometry.pageSize.toNat (f.loadImages (a.only a.image) b) (f.loadImages a b) := by
  have hchanges := f.loadImage_changes a.headers a.image b
  rw [loadImages_only rfl]
  cases hr : (f.loadImage a.headers a.image b).value.result with
  | error e =>
    rw [hr] at hchanges
    rw [loadImages_of_error hr]
    exact ⟨rfl, nofun, hchanges, fun _ => rfl, nofun⟩
  | ok n =>
    rw [hr] at hchanges
    cases ht : a.tree with
    | none =>
      rw [loadImages_of_ok hr ht]
      exact ⟨rfl, fun _ h => h, hchanges, fun _ => ht.symm, fun _ _ _ h => by cases ht.symm.trans h⟩
    | some r =>
      have hsecond := f.loadImage_changes a.headers r (f.loadImage a.headers a.image b).board
      rw [loadImages_of_tree rfl hr ht rfl]
      refine ⟨rfl, fun k hk => ?_, hchanges, ?_, fun k r' _ hr' => ?_⟩
      · exact congrArg some (Report.eq_of_imageLength_map hk)
      · rintro (h | h)
        · cases ht.symm.trans h
        · cases h
      · obtain rfl := Option.some.inj (ht.symm.trans hr')
        refine ⟨_, _, _, rfl, ?_, ?_, Report.treeLength_map ▸ hsecond⟩
        · simp only [Outcome.events, Trace.events_append, headerCalls_append]
        · simp only [Outcome.events, Trace.events_append, arrivals_append]

end Flash

/-! ## The attempt -/

namespace Loader

/-- Nothing that is done before the images or after them counts as loading. -/
theorem StartEvent.arrived_eq {e : Event} (h : StartEvent e) : e.arrived = 0 := by
  obtain ⟨call, rfl⟩ | ⟨asked, rfl⟩ | h := h
  · rfl
  · rfl
  · have hop := hasOpcode_eq_of_sends h (o := .fastRead) (by decide)
    cases e with
    | transaction t => simp_all [Event.arrived, Event.hasOpcode]
    | _ => rfl

theorem headerCalls_of_startEvents {es : List Event} (h : ∀ e ∈ es, StartEvent e) :
    headerCalls es = [] := by
  refine List.filterMap_eq_nil_iff.2 fun e he => ?_
  obtain ⟨call, rfl⟩ | ⟨asked, rfl⟩ | h := h e he
  · rfl
  · rfl
  · cases e with
    | header kind bytes => exact h.elim
    | _ => rfl

end Loader

theorem Attempt.Changes.between {page : Nat} {a : Attempt} {alone both : Outcome Report}
    (h : a.Changes page alone both) {opening closing : Trace}
    (hstart : ∀ e ∈ opening.events ++ closing.events, Loader.StartEvent e) :
    a.Changes page (alone.between opening closing) (both.between opening closing) := by
  have hcalls := Loader.headerCalls_of_startEvents hstart
  have harrivals := arrivals_eq_zero fun e he => (hstart e he).arrived_eq
  rw [headerCalls_append, List.append_eq_nil_iff] at hcalls
  rw [arrivals_append, Nat.add_eq_zero_iff] at harrivals
  have hcalls' : ∀ o : Outcome Report,
      headerCalls (o.between opening closing).events = headerCalls o.events := by
    simp [hcalls]
  have harrivals' : ∀ o : Outcome Report,
      arrivals (o.between opening closing).events = arrivals o.events := by
    simp [harrivals]
  obtain ⟨himage_eq, hlength, himage, htree_eq, htree⟩ := h
  refine ⟨himage_eq, hlength, ?_, htree_eq, ?_⟩
  · rwa [hcalls', harrivals']
  · rwa [hcalls', hcalls', harrivals', harrivals']

namespace Loader

theorem load_changes (l : Loader) (a : Attempt) (b : Board) :
    (l.controller = .switched false ∨
        (∃ e, (Flash.probe l.build l.config b).value = .error e) ∨
        l.build.recovery = true ∧ a.signal.asserted = true →
      (l.load a b).value.image = a.image ∧ (l.load a b).value.tree = a.tree ∧
        ∀ n m, (l.load a b).value.result ≠ .ok (.loaded n m)) ∧
    ∀ f, l.Reaches a.signal b f →
      a.Changes f.geometry.pageSize.toNat (l.load (a.only a.image) b) (l.load a b) := by
  cases l.start a.signal b with
  | stops result b' t unreached result_eq alarms_iff load_eq =>
    refine ⟨fun _ => ?_, fun f hf => absurd hf (unreached f)⟩
    rw [load_eq a rfl]
    refine ⟨rfl, rfl, ?_⟩
    obtain ⟨e, rfl⟩ | ⟨rfl, -⟩ := result_eq
    · exact nofun
    · exact nofun
  | reaches f opening closing reached events alarms_opening alarms_closing load_eq =>
    refine ⟨fun h => ?_, fun f' hf' => ?_⟩
    · obtain hinit | ⟨e, he⟩ | ⟨hbuild, hasked⟩ := h
      · exact absurd hinit reached.initialises
      · cases he.symm.trans reached.probe
      · cases hasked.symm.trans (reached.unasked hbuild)
    · obtain rfl := reached.eq hf'
      rw [load_eq a rfl, load_eq (a.only a.image) rfl]
      exact (f.loadImages_changes a _).between events

end Loader

end FlashBoot
