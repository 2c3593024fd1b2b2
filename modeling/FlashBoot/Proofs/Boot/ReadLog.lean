import FlashBoot.Proofs.Boot.Loading
import FlashBoot.Proofs.Boot.Start
import FlashBoot.Proofs.Flash.ReadLog
import FlashBoot.Proofs.Image.Changes

/-!
# The log of a load

An image is read in up to two parts, the first page for its header and then its bulk, which is
announced with the length and the offset of the image (`Request.Logged`). An attempt logs its images
one behind the other, and nothing else of a read (`Loader.LogsLoad`).

`readLog_faithful`: the read log of every attempt and of every series of reads is that of the fast
reads on the bus.
-/

namespace FlashBoot

/-! ## Images -/

namespace Request

/-- The bulk of the image is read: its length is known and not zero, and there is room for it. -/
structure Attempts (headers : HeaderParser) (calls : List (ImageKind × List UInt8)) (r : Request)
    (n : UInt32) : Prop where
  resolved : r.Resolved headers calls n
  pos : 0 < n.toNat
  room : n.toNat ≤ r.destination.length

/-- The trace before the bulk of an image: no more than its first page is read, and nothing if its
length is given. -/
structure LogsPage (g : Geometry) (r : Request) (t : Trace) : Prop
    extends t.LogsRead g r.offset g.pageSize.toNat where
  given : r.length ≠ none → t.fastReads = []
  /-- The header parser is called once at most. -/
  headers_le : (headerCalls t.events).length ≤ 1

/-- The trace of an image. -/
inductive Logged (g : Geometry) (headers : HeaderParser) (r : Request) : Trace → Prop
  /-- The bulk is not read, and not announced. -/
  | unread {page : Trace} (logs : r.LogsPage g page)
      (unattempted : ∀ n, ¬ r.Attempts headers (headerCalls page.events) n) :
      Logged g headers r page
  /-- The bulk is read, to its end or not, and is announced once, before anything is sent for
  it. -/
  | read {page bulk : Trace} {n : UInt32} (logs : r.LogsPage g page)
      (attempted : r.Attempts headers (headerCalls page.events) n)
      (logsBulk : bulk.LogsRead g r.offset n.toNat) :
      Logged g headers r (page ++ .message (.copying n r.offset) :: bulk)

variable {g : Geometry} {headers : HeaderParser} {r : Request} {t t' : Trace}

theorem LogsPage.of_readless (ht : t.Readless) (hheaders : headerCalls t.events = []) :
    r.LogsPage g t := by
  refine ⟨.of_readless ht, fun _ => ht.fastReads, ?_⟩
  rw [hheaders]
  exact Nat.zero_le 1

theorem Logged.noted (h : r.Logged g headers t) :
    List.Forall₂ g.Noted t.fastReads t.readNotes := by
  cases h with
  | unread logs _ => exact logs.notes.noted
  | read logs _ logsBulk =>
    rw [Trace.fastReads_append, Trace.readNotes_append]
    exact List.rel_append logs.notes.noted logsBulk.notes.noted

end Request

/-- An image whose length is known by the calls of the header parser so far is copied next. -/
theorem Request.LogsPage.logged_of_copies {g : Geometry} {headers : HeaderParser}
    {r found found' : Request} {n : UInt32} {page t : Trace} {d d' : Delivery}
    (hpage : r.LogsPage g page)
    (hresolved : ∀ m, r.Resolved headers (headerCalls page.events) m ↔ n = m)
    (hoffset : found.offset = r.offset)
    (hroom : found.destination.length = r.destination.length)
    (h : g.Copies n found found' d d' t) : r.Logged g headers (page ++ t) := by
  cases h with
  | refused hunfit =>
    have hrefused : Trace.Readless [.message (.imageDoesNotFit n)] := ⟨rfl, rfl, rfl⟩
    refine .unread ⟨hpage.append_readless hrefused, fun hne => ?_, ?_⟩ fun m hm => ?_
    · rw [Trace.fastReads_append, hpage.given hne]
      rfl
    · simpa using hpage.headers_le
    · obtain rfl : n = m := (hresolved m).1 (by simpa using hm.resolved)
      exact hunfit ⟨hm.pos, hroom ▸ hm.room⟩
  | copied hpos hfits _ hreads =>
    rw [hoffset] at hreads ⊢
    exact .read hpage ⟨(hresolved n).2 rfl, hpos, hroom ▸ hfits⟩ hreads.logs.toLogsRead
  | failed hpos hfits _ hreads =>
    rw [hoffset] at hreads ⊢
    refine .read hpage ⟨(hresolved n).2 rfl, hpos, hroom ▸ hfits⟩
      (hreads.logs.toLogsRead.append_readless ?_)
    split
    · exact .nil
    · exact ⟨rfl, rfl, rfl⟩

namespace Geometry

variable {g : Geometry} {headers : HeaderParser} {r r' : Request} {d d' : Delivery} {t : Trace}

theorem Finds.logsPage (h : g.Finds headers r r' d d' t) (hlength : r.length = none) :
    r.LogsPage g t := by
  -- behind the page there is at most the call of the parser
  have hpage : ∀ {result : Except Failure Unit} {page t' : Trace},
      g.Reads r.offset g.pageSize.toNat result page → t'.Readless →
      (headerCalls t'.events).length ≤ 1 → r.LogsPage g (page ++ t') := by
    intro result page t' hreads ht' hcalls
    refine ⟨hreads.logs.toLogsRead.append_readless ht', absurd hlength, ?_⟩
    rw [Trace.events_append, headerCalls_append, hreads.arrives.headers, List.nil_append]
    exact hcalls
  cases h with
  | short _ => exact .of_readless .nil rfl
  | failed _ _ hreads => exact List.append_nil t ▸ hpage hreads .nil (Nat.zero_le 1)
  | found _ _ hreads _ => exact hpage hreads ⟨rfl, rfl, rfl⟩ (Nat.le_refl 1)
  | invalid _ _ hreads _ => exact hpage hreads ⟨rfl, rfl, rfl⟩ (Nat.le_refl 1)

/-- Every image that is loaded is logged. -/
theorem Loads.logged (h : g.Loads headers r r' d d' t) : r.Logged g headers t := by
  cases h with
  | @given n _ _ t hlength hcopies =>
    have hpage : r.LogsPage g [] := .of_readless .nil rfl
    exact hpage.logged_of_copies (by simp [Request.Resolved, hlength]) rfl rfl hcopies
  | unfound hlength hfinds =>
    refine .unread (hfinds.logsPage hlength) fun n hn => ?_
    obtain hgiven | ⟨-, header, hmem, hheader⟩ := hn.resolved
    · cases hlength.symm.trans hgiven
    · cases (hfinds.toFound.error _ rfl header hmem).symm.trans hheader
  | found hlength hfinds hcopies =>
    obtain ⟨-, header, hcalls, hheader⟩ := hfinds.toFound.ok _ rfl
    have hwrites := hfinds.toFound.writes
    refine (hfinds.logsPage hlength).logged_of_copies (fun m => ?_) hwrites.offset hwrites.room
      hcopies
    simp [Request.Resolved, hlength, hcalls, hheader]

end Geometry

theorem Flash.loadImage_logs (f : Flash) (headers : HeaderParser) (r : Request) :
    (f.loadImage headers r).Leaves fun _ t => r.Logged f.geometry headers t :=
  (f.loadImage_leaves headers r).mono fun _ _ ⟨_, hway⟩ => hway.logged

/-! ## Attempts -/

/-- The traces of the two images of an attempt. The second one is begun when the first one is
loaded. -/
structure Attempt.LogsImages (g : Geometry) (a : Attempt) (loaded : Prop) (image tree : Trace) :
    Prop where
  first : a.image.Logged g a.headers image
  second : ∀ r, loaded → a.tree = some r → r.Logged g a.headers tree
  unbegun : ¬ loaded ∨ a.tree = none → tree = []

theorem Attempt.LogsImages.noted {g : Geometry} {a : Attempt} {loaded : Prop} {image tree : Trace}
    (h : a.LogsImages g loaded image tree) :
    List.Forall₂ g.Noted (image.fastReads ++ tree.fastReads)
      (image.readNotes ++ tree.readNotes) := by
  refine List.rel_append h.first.noted ?_
  by_cases hloaded : loaded
  · cases htree : a.tree with
    | none =>
      rw [h.unbegun (.inr htree)]
      exact .nil
    | some r => exact (h.second r hloaded htree).noted
  · rw [h.unbegun (.inl hloaded)]
    exact .nil

theorem Flash.loadImages_logs (f : Flash) (a : Attempt) (b : Board) : ∃ image tree : Trace,
    (f.loadImages a b).trace = image ++ tree ∧ a.LogsImages f.geometry
      (∃ n, (f.loadImage a.headers a.image b).value.result = .ok n) image tree := by
  have himage := f.loadImage_logs a.headers a.image b
  cases hr : (f.loadImage a.headers a.image b).value.result with
  | error e =>
    rw [loadImages_of_error hr]
    exact ⟨_, [], (List.append_nil _).symm, himage, nofun, fun _ => rfl⟩
  | ok n =>
    cases ht : a.tree with
    | none =>
      rw [loadImages_of_ok hr ht]
      refine ⟨_, [], (List.append_nil _).symm, himage, fun r _ htree => ?_, fun _ => rfl⟩
      cases ht.symm.trans htree
    | some r =>
      rw [loadImages_of_tree rfl hr ht rfl]
      refine ⟨_, _, rfl, himage, fun r' _ htree => ?_, ?_⟩
      · obtain rfl := Option.some.inj (ht.symm.trans htree)
        exact f.loadImage_logs a.headers r _
      · rintro (hnot | hnone)
        · exact absurd ⟨n, rfl⟩ hnot
        · cases ht.symm.trans hnone

/-! ## Around the images -/

theorem Trace.Readless.of_entries {t : Trace}
    (hevents : ∀ e, Entry.event e ∈ t → e.hasOpcode .fastRead = false)
    (hmessages : ∀ m, Entry.message m ∈ t → m.isOfReading = false) : t.Readless := by
  induction t with
  | nil => exact .nil
  | cons entry t ih =>
    have hrest := ih (fun e he => hevents e (.tail _ he)) fun m hm => hmessages m (.tail _ hm)
    have hfirst : Trace.Readless [entry] := by
      cases entry with
      | event e => exact .event (hevents e (.head _))
      | message m => exact .message (hmessages m (.head _))
    exact hfirst.append hrest

/-- Anything that is nothing of a read. -/
def Drive.Scope.readless : Drive.Scope where
  does e := e.hasOpcode .fastRead = false
  tells m := m.isOfReading = false
  fails _ := True

theorem Run.Confined.readless {α : Type} {Q : α → Prop} {x : Run α}
    (h : Run.Confined .readless Q x) (b : Board) : (x b).trace.Readless :=
  .of_entries (fun e he => (Drive.InStep.bounded h b).1 (.event e) he)
    fun m hm => (Drive.InStep.bounded h b).1 (.message m) hm

theorem Controller.entries_readless (c : Controller) (call : ControllerCall) :
    (c.entries call).Readless := by
  cases c <;> exact ⟨rfl, rfl, rfl⟩

namespace Loader

variable {l : Loader} {a : Attempt} {b : Board} {f : Flash}

theorem prepares_readless (l : Loader) (signal : Signal) : l.Prepares signal .readless where
  identification :=
    ⟨fun _ he => hasOpcode_eq_of_sends he.sends (by decide), fun _ hm => hm, fun _ _ => trivial⟩
  sampling := by
    refine ⟨?_, fun _ hm => hm, fun _ _ => trivial⟩
    rintro _ ⟨_, rfl⟩
    rfl
  erasing _ _ i := by
    refine ⟨?_, fun _ hm => hm, fun _ _ => trivial⟩
    rintro _ (he | ⟨_, rfl⟩)
    · exact hasOpcode_eq_of_sends he.sends (by cases i <;> decide)
    · rfl

/-- What an attempt does before its images leaves nothing of a read. -/
theorem prepare_readless (l : Loader) (signal : Signal) (b : Board) :
    (l.prepare signal b).trace.Readless :=
  (prepare_confined (l.prepares_readless signal)).readless b

/-- The first image would be loaded, if it were the only one. -/
def LoadsFirst (l : Loader) (a : Attempt) (b : Board) : Prop :=
  ∃ n, (l.load (a.only a.image) b).value.result = .ok (.loaded n none)

/-- The log of an attempt is that of its fast reads. -/
structure LogsLoad (l : Loader) (a : Attempt) (b : Board) : Prop where
  /-- An attempt that does not get to its images has nothing of a read. -/
  unreached : (∀ f, ¬ l.Reaches a.signal b f) → (l.load a b).trace.Readless
  /-- There is one note for each fast read, in order. -/
  notes : ∀ f, l.Reaches a.signal b f →
    List.Forall₂ f.geometry.Noted (l.load a b).trace.fastReads (l.load a b).trace.readNotes
  /-- They are those of the images. -/
  images : ∀ f, l.Reaches a.signal b f → ∃ opening image tree closing : Trace,
    (l.load a b).trace = opening ++ (image ++ tree ++ closing) ∧ opening.Readless ∧
    closing.Readless ∧ a.LogsImages f.geometry (l.LoadsFirst a b) image tree

/-- Around the images there is nothing of a read. -/
theorem exists_load_eq (h : l.Reaches a.signal b f) :
    ∃ opening closing : Trace, opening.Readless ∧ closing.Readless ∧ ∀ a' : Attempt,
      a'.signal = a.signal → l.load a' b =
        (f.loadImages a' (Flash.probe l.build l.config b).board).between opening closing := by
  have hentries := l.controller.entries_readless
  refine ⟨l.controller.entries .init ++ l.controller.entries .enable ++
    (l.prepare a.signal b).trace, _, ?_, hentries .disable, ?_⟩
  · exact ((hentries .init).append (hentries .enable)).append (l.prepare_readless a.signal b)
  · intro a' ha'
    rw [← ha'] at h ⊢
    exact load_eq_of_reaches h

/-- Without images there is nothing of a read. -/
theorem load_readless (h : ∀ f, ¬ l.Reaches a.signal b f) : (l.load a b).trace.Readless := by
  by_cases hinit : l.controller = .switched false
  · rw [load_of_failing hinit]
    exact ⟨rfl, rfl, rfl⟩
  have hboot : (l.boot a b).trace = (l.prepare a.signal b).trace := by
    obtain ⟨f, hprobe, hunasked⟩ | ⟨e, he⟩ | ⟨f, hf, -⟩ := prepare_cases l a.signal b
    · exact absurd ⟨hinit, hprobe, hunasked⟩ (h f)
    · rw [boot_of_error he]
    · rw [boot_of_succeeded hf]
  have hentries := l.controller.entries_readless
  rw [load_eq_between hinit, Outcome.trace_between, hboot]
  refine ((hentries .init).append (hentries .enable)).append
    ((l.prepare_readless a.signal b).append ?_)
  split
  · exact .nil
  · exact hentries .disable

theorem load_logs (l : Loader) (a : Attempt) (b : Board) : l.LogsLoad a b := by
  have himages : ∀ f, l.Reaches a.signal b f → ∃ opening image tree closing : Trace,
      (l.load a b).trace = opening ++ (image ++ tree ++ closing) ∧ opening.Readless ∧
      closing.Readless ∧ a.LogsImages f.geometry (l.LoadsFirst a b) image tree := by
    intro f hf
    obtain ⟨opening, closing, hopening, hclosing, hload⟩ := exists_load_eq hf
    obtain ⟨image, tree, htrace, hlogs⟩ :=
      f.loadImages_logs a (Flash.probe l.build l.config b).board
    refine ⟨opening, image, tree, closing, ?_, hopening, hclosing, ?_⟩
    · rw [hload a rfl, Outcome.trace_between, htrace]
    · rw [LoadsFirst, hload (a.only a.image) rfl, Outcome.value_between]
      simpa only [Flash.loadImages_only_eq_loaded_iff] using hlogs
  refine ⟨load_readless, fun f hf => ?_, himages⟩
  obtain ⟨opening, image, tree, closing, htrace, hopening, hclosing, hlogs⟩ := himages f hf
  rw [htrace]
  simpa [hopening.fastReads, hopening.readNotes, hclosing.fastReads, hclosing.readNotes]
    using hlogs.noted

end Loader

/-- The read log is faithful to the bus. -/
theorem readLog_faithful (f : Flash) (calls : List ReadCall) (l : Loader) (a : Attempt)
    (b : Board) : f.LogsReads calls b ∧ l.LogsLoad a b :=
  ⟨f.readAll_logs calls b, l.load_logs a b⟩

/-- The kernel of an M25P, and a read of its array that is made twice. -/
theorem readLog_faithful_m25p :
    Loader.standard.Reaches Attempt.kernel.signal .m25p .m25p ∧
    List.Forall₂ Flash.m25p.geometry.Noted
      (Loader.standard.load .kernel .m25p).trace.fastReads
      (Loader.standard.load .kernel .m25p).trace.readNotes ∧
    ∀ call : ReadCall, Flash.m25p.LogsReads [call, call] .m25p := by
  have hreaches : Loader.standard.Reaches Attempt.kernel.signal .m25p .m25p :=
    ⟨nofun, probe_m25p, fun _ => rfl⟩
  refine ⟨hreaches, ?_, fun call => ?_⟩
  · exact (readLog_faithful .m25p [] .standard .kernel .m25p).2.notes .m25p hreaches
  · exact (readLog_faithful .m25p [call, call] .standard .kernel .m25p).1

end FlashBoot
