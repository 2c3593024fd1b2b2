import FlashBoot.Proofs.Drive.Bounds
import FlashBoot.Proofs.Drive.Fault
import FlashBoot.Proofs.Drive.Steady

/-!
# Activities in step

Every function of the driver is put together from events, messages and transactions, one after the
other, and does nothing more but log when one of its parts has failed. `Drive.InStep s fails R x y`
says so of two activities at once that go through the same pieces: all of them are in the scope `s`,
`fails` tells which values are failures, and `R` relates the values that both end with and the trace
that they leave. One activity is in step with itself; two are needed where they are handed
different memory.

A function is followed through once, for any scope that has its pieces, and what is known of all
such activities is known of it:

* its events, messages and failures are those of the scope (`InStep.bounded`, `InStep.within`);
* the first fault ends it (`InStep.endsAtFault`);
* it takes alike boards for one (`InStep.steady`);
* its values and its trace are related as it was put together (`InStep.leaves`, `InStep.agree`).
-/

namespace FlashBoot

/-- A failure of the bus. -/
def Failure.IsBus (f : Failure) : Prop := ∃ code, f = .error (.bus code)

namespace Drive

/-! ## What is told of activities -/

/-- On every board, the value and the trace of the activity are related. -/
def Leaves {α : Type} (P : α → Trace → Prop) (x : Drive α) : Prop :=
  ∀ b, P (x b).value (x b).trace

theorem Leaves.mono {α : Type} {P P' : α → Trace → Prop} {x : Drive α} (h : Leaves P x)
    (hP : ∀ a t, P a t → P' a t) : Leaves P' x :=
  fun b => hP _ _ (h b)

/-- A transaction is answered in full, or fails with the code that is noted. -/
theorem leaves_transact {command shifted : List UInt8}
    {P : Except UInt8 (List UInt8) → Trace → Prop}
    (hok : ∀ response, response.length = shifted.length →
      P (.ok response) [.event (.transaction ⟨command, shifted, none⟩)])
    (herror : ∀ code,
      P (.error code) [.event (.transaction ⟨command, shifted, some code⟩)]) :
    Leaves P (Drive.transact command shifted) := by
  intro b
  cases hr : (b.transact command shifted.length).1 with
  | ok response =>
    have h := hok response (Board.length_of_transact hr)
    simpa [Drive.transact, hr] using h
  | error code =>
    have h := herror code
    simpa [Drive.transact, hr] using h

/-- On every board both activities do and log the same and leave the same board, and their values
are related. -/
structure Agree {α α' : Type} (R : α → α' → Prop) (x : Drive α) (y : Drive α') : Prop where
  value : ∀ b, R (x b).value (y b).value
  board : ∀ b, (x b).board = (y b).board
  trace : ∀ b, (x b).trace = (y b).trace

/-! ## The judgement -/

/-- What activities of a kind do and log, and how they fail but for the bus. -/
structure Scope where
  does : Event → Prop
  tells : Message → Prop
  fails : Failure → Prop

/-- Everything, and any failure that is none of the bus. -/
def Scope.unbounded : Scope where
  does _ := True
  tells _ := True
  fails e := ¬ e.IsBus

theorem Scope.not_fails_unbounded (code : UInt8) : ¬ unbounded.fails (.error (.bus code)) :=
  fun h => h ⟨code, rfl⟩

/-- Anything but a read of the SPI NOR status. -/
def Scope.steady : Scope where
  does e := ∀ t, e = .transaction t → t.opcode ≠ Opcode.norStatus.byte
  tells _ := True
  fails _ := True

/-- The entry of a trace is in the scope. -/
def Scope.Has (s : Scope) : Entry → Prop
  | .event e => s.does e
  | .message m => s.tells m

/-- The second scope has everything that is in the first one. -/
protected structure Scope.LE (s s' : Scope) : Prop where
  does : ∀ e, s.does e → s'.does e
  tells : ∀ m, s.tells m → s'.tells m
  fails : ∀ e, s.fails e → s'.fails e

instance : LE Scope := ⟨Scope.LE⟩

theorem Scope.LE.refl (s : Scope) : s ≤ s := ⟨fun _ h => h, fun _ h => h, fun _ h => h⟩

theorem Scope.le_unbounded {s : Scope} (h : ∀ code, ¬ s.fails (.error (.bus code))) :
    s ≤ unbounded :=
  ⟨fun _ _ => trivial, fun _ _ => trivial, fun _ he ⟨code, hcode⟩ => h code (hcode ▸ he)⟩

/-- What is left of an activity that has failed with `e`: it may log this and fails with it. -/
def Scope.stopped (s : Scope) (e : Failure) : Scope where
  does _ := False
  tells := s.tells
  fails := (· = e)

/-- The reply to a transaction is this failure of the bus. -/
def ReplyFails (reply : Except UInt8 (List UInt8)) (e : Failure) : Prop :=
  ∃ code, reply = .error code ∧ e = .error (.bus code)

/-- The two activities go through the same pieces, all of them in the scope. -/
inductive InStep : Scope → {α α' : Type} → (α → Failure → Prop) → (α → α' → Trace → Prop) →
    Drive α → Drive α' → Prop
  | pure {s : Scope} {α α' : Type} {fails : α → Failure → Prop} {R : α → α' → Trace → Prop}
      {a : α} {a' : α'} (hs : ∀ e, fails a e → s.fails e) (hR : R a a' []) :
      InStep s fails R (pure a) (pure a')
  | emit {s : Scope} {R : Unit → Unit → Trace → Prop} {e : Event} (hs : s.does e)
      (he : ∀ t, e ≠ .transaction t) (hR : R () () [.event e]) :
      InStep s (fun _ _ => False) R (Drive.emit e) (Drive.emit e)
  | log {s : Scope} {R : Unit → Unit → Trace → Prop} {m : Message} (hs : s.tells m)
      (hR : R () () [.message m]) :
      InStep s (fun _ _ => False) R (Drive.log m) (Drive.log m)
  | transact {s : Scope} {R : Except UInt8 (List UInt8) → Except UInt8 (List UInt8) → Trace → Prop}
      {command shifted : List UInt8}
      (hs : ∀ fault, s.does (.transaction ⟨command, shifted, fault⟩))
      (hok : ∀ response, response.length = shifted.length →
        R (.ok response) (.ok response) [.event (.transaction ⟨command, shifted, none⟩)])
      (herror : ∀ code,
        R (.error code) (.error code) [.event (.transaction ⟨command, shifted, some code⟩)]) :
      InStep s ReplyFails R (Drive.transact command shifted) (Drive.transact command shifted)
  /-- The second parts go on from related values; a failure stops them. -/
  | bind {s : Scope} {α α' β β' : Type} {fails : α → Failure → Prop} {fails' : β → Failure → Prop}
      {R : α → α' → Trace → Prop} {S : β → β' → Trace → Prop} {x : Drive α} {y : Drive α'}
      {f : α → Drive β} {g : α' → Drive β'} (hx : InStep s fails R x y)
      (hf : ∀ a a' t, R a a' t → (∀ e, ¬ fails a e) →
        InStep s fails' (fun c c' t' => S c c' (t ++ t')) (f a) (g a'))
      (hstop : ∀ a a' t e, R a a' t → fails a e →
        InStep (s.stopped e) fails' (fun c c' t' => fails' c e ∧ S c c' (t ++ t')) (f a) (g a')) :
      InStep s fails' S (x >>= f) (y >>= g)

theorem map_eq_bind {α β : Type} (g : α → β) (x : Drive α) :
    g <$> x = x >>= fun a => pure (g a) :=
  funext fun b => by rw [map_apply, bind_apply, pure_apply, List.append_nil]

namespace InStep

variable {s s' : Scope} {α α' β β' : Type} {fails : α → Failure → Prop}
  {fails' : β → Failure → Prop} {R R' : α → α' → Trace → Prop} {S : β → β' → Trace → Prop}
  {x : Drive α} {y : Drive α'}

/-! ## Putting together -/

theorem mono (h : InStep s fails R x y) (hR : ∀ a a' t, R a a' t → R' a a' t) :
    InStep s fails R' x y := by
  induction h with
  | pure hs hleft => exact .pure hs (hR _ _ _ hleft)
  | emit hs he hleft => exact .emit hs he (hR _ _ _ hleft)
  | log hs hleft => exact .log hs (hR _ _ _ hleft)
  | transact hs hok herror =>
    exact .transact hs (fun r hr => hR _ _ _ (hok r hr)) fun code => hR _ _ _ (herror code)
  | bind hx _ _ _ ihf ihstop =>
    refine .bind hx (fun a a' t ha hnot => ihf a a' t ha hnot fun _ _ _ h => hR _ _ _ h)
      fun a a' t e ha he => ihstop a a' t e ha he fun _ _ _ h => ⟨h.1, hR _ _ _ h.2⟩

theorem widen (h : InStep s fails R x y) (hle : s ≤ s') : InStep s' fails R x y := by
  induction h generalizing s' with
  | pure hs hR => exact .pure (fun e he => hle.fails e (hs e he)) hR
  | emit hs he hR => exact .emit (hle.does _ hs) he hR
  | log hs hR => exact .log (hle.tells _ hs) hR
  | transact hs hok herror => exact .transact (fun fault => hle.does _ (hs fault)) hok herror
  | bind _ _ _ ihx ihf ihstop =>
    exact .bind (ihx hle) (fun a a' t ha hnot => ihf a a' t ha hnot hle)
      fun a a' t e ha he => ihstop a a' t e ha he ⟨fun _ => False.elim, hle.tells, fun _ => id⟩

/-- Behind activities that do not fail. -/
theorem bind_of_never {f : α → Drive β} {g : α' → Drive β'}
    (hx : InStep s (fun _ _ => False) R x y)
    (hf : ∀ a a' t, R a a' t → InStep s fails' (fun c c' t' => S c c' (t ++ t')) (f a) (g a')) :
    InStep s fails' S (x >>= f) (y >>= g) :=
  .bind hx (fun a a' t ha _ => hf a a' t ha) fun _ _ _ _ _ he => he.elim

theorem log_bind {m : Message} (hs : s.tells m)
    (h : InStep s fails (fun a a' t => R a a' (.message m :: t)) x y) :
    InStep s fails R (do Drive.log m; x) (do Drive.log m; y) :=
  .bind_of_never (R := fun _ _ t => t = [.message m]) (.log hs rfl) fun _ _ _ ht => ht ▸ h

/-- Behind which nothing is done, and no failure is lost or made up; a value can be one failure
only. -/
theorem bind_of_settled {f : α → Drive β} {g : α' → Drive β'} (hx : InStep s fails R x y)
    (hone : ∀ a e e', fails a e → fails a e' → e' = e)
    (hf : ∀ a a' t, R a a' t → InStep ⟨fun _ => False, s.tells, fails a⟩ fails'
      (fun c c' t' => (∀ e, fails a e → fails' c e) ∧ S c c' (t ++ t')) (f a) (g a')) :
    InStep s fails' S (x >>= f) (y >>= g) := by
  refine .bind hx (fun a a' t ha hnot => ?_) fun a a' t e ha he => ?_
  · exact ((hf a a' t ha).mono fun _ _ _ h => h.2).widen
      ⟨fun _ => False.elim, fun _ hm => hm, fun e he => absurd he (hnot e)⟩
  · exact ((hf a a' t ha).mono fun _ _ _ h => ⟨h.1 e he, h.2⟩).widen
      ⟨fun _ he => he, fun _ hm => hm, fun e' he' => hone a e e' he he'⟩

/-- The same made of both values. -/
theorem map {g : α → β} {g' : α' → β'}
    (h : InStep s fails (fun a a' t => S (g a) (g' a') t) x y)
    (hfails : ∀ a e, fails' (g a) e ↔ fails a e)
    (hone : ∀ a e e', fails a e → fails a e' → e' = e) :
    InStep s fails' S (g <$> x) (g' <$> y) := by
  rw [map_eq_bind, map_eq_bind]
  refine h.bind_of_settled hone fun a a' t ha => ?_
  exact .pure (fun e he => (hfails a e).1 he)
    ⟨fun e he => (hfails a e).2 he, by rwa [List.append_nil]⟩

/-! ## Values and traces -/

theorem both (h : InStep s fails R x y) (b : Board) :
    R (x b).value (y b).value (x b).trace ∧ (x b).board = (y b).board ∧
      (x b).trace = (y b).trace := by
  induction h generalizing b with
  | pure _ hR => exact ⟨hR, rfl, rfl⟩
  | emit _ _ hR => exact ⟨hR, rfl, rfl⟩
  | log _ hR => exact ⟨hR, rfl, rfl⟩
  | @transact _ R _ _ _ hok herror =>
    exact ⟨leaves_transact (P := fun r t => R r r t) hok herror b, rfl, rfl⟩
  | @bind _ _ _ _ _ fails _ _ S x y f g _ _ _ ihx ihf ihstop =>
    obtain ⟨hR, hboard, htrace⟩ := ihx b
    have hrest : S (f (x b).value (x b).board).value (g (y b).value (x b).board).value
          ((x b).trace ++ (f (x b).value (x b).board).trace) ∧
        (f (x b).value (x b).board).board = (g (y b).value (x b).board).board ∧
        (f (x b).value (x b).board).trace = (g (y b).value (x b).board).trace := by
      by_cases hfails : ∃ e, fails (x b).value e
      · obtain ⟨e, he⟩ := hfails
        obtain ⟨⟨-, hS⟩, hsame⟩ := ihstop _ _ _ e hR he (x b).board
        exact ⟨hS, hsame⟩
      · exact ihf _ _ _ hR (not_exists.1 hfails) (x b).board
    rw [bind_apply, bind_apply, ← hboard, ← htrace]
    exact ⟨hrest.1, hrest.2.1, congrArg _ hrest.2.2⟩

theorem agree (h : InStep s fails R x y) {S : α → α' → Prop} (hS : ∀ a a' t, R a a' t → S a a') :
    Agree S x y :=
  ⟨fun b => hS _ _ _ (h.both b).1, fun b => (h.both b).2.1, fun b => (h.both b).2.2⟩

theorem leaves (h : InStep s fails R x y) : Leaves (fun a t => ∃ a', R a a' t) x :=
  fun b => ⟨_, (h.both b).1⟩

/-! ## What is done, logged and reported -/

theorem bounded (h : InStep s fails R x y) (b : Board) :
    (∀ entry ∈ (x b).trace, s.Has entry) ∧ b.Keeps (x b).board ∧
      ∀ e, fails (x b).value e → e.IsBus ∨ s.fails e := by
  induction h generalizing b with
  | pure hs _ => exact ⟨nofun, .refl b, fun e he => .inr (hs e he)⟩
  | emit hs _ _ => exact ⟨fun _ he => List.mem_singleton.1 he ▸ hs, .refl b, nofun⟩
  | log hs _ => exact ⟨fun _ he => List.mem_singleton.1 he ▸ hs, .refl b, nofun⟩
  | transact hs _ _ =>
    refine ⟨fun _ he => List.mem_singleton.1 he ▸ hs _, b.keeps_transact .., ?_⟩
    rintro e ⟨code, -, rfl⟩
    exact .inl ⟨code, rfl⟩
  | @bind s _ _ _ _ fails _ _ _ x y f g hx _ _ ihx ihf ihstop =>
    obtain ⟨htrace, hboard, hreport⟩ := ihx b
    have hR := (hx.both b).1
    rw [bind_apply]
    by_cases hfails : ∃ e, fails (x b).value e
    · obtain ⟨e, he⟩ := hfails
      obtain ⟨hrest, hboard', hreport'⟩ := ihstop _ _ _ e hR he (x b).board
      have htrace' : ∀ entry ∈ (f (x b).value (x b).board).trace, s.Has entry := by
        intro entry hentry
        have hhas := hrest entry hentry
        cases entry with
        | event _ => exact hhas.elim
        | message _ => exact hhas
      refine ⟨List.forall_mem_append.2 ⟨htrace, htrace'⟩, hboard.trans hboard', fun e' he' => ?_⟩
      obtain hbus | rfl := hreport' e' he'
      · exact .inl hbus
      · exact hreport _ he
    · obtain ⟨htrace', hboard', hreport'⟩ := ihf _ _ _ hR (not_exists.1 hfails) (x b).board
      exact ⟨List.forall_mem_append.2 ⟨htrace, htrace'⟩, hboard.trans hboard', hreport'⟩

theorem does_of_mem (h : InStep s fails R x y) (b : Board) : ∀ e ∈ (x b).events, s.does e := by
  intro e he
  obtain ⟨entry, hentry, heq⟩ := List.mem_filterMap.1 he
  have hhas := (h.bounded b).1 entry hentry
  cases entry with
  | event e' => exact Option.some.inj heq ▸ hhas
  | message _ => cases heq

theorem within (h : InStep s fails R x y) :
    Within s.does (fun a => ∀ e, fails a e → e.IsBus ∨ s.fails e) x :=
  ⟨h.does_of_mem, fun b => (h.bounded b).2.2, fun b => (h.bounded b).2.1⟩

/-! ## Under faults and on steady boards -/

/-- The first fault ends an activity that does not fail by the bus on its own. -/
theorem endsAtFault (h : InStep s fails R x y) (hs : ∀ code, ¬ s.fails (.error (.bus code))) :
    EndsAtFault (fun a code => fails a (.error (.bus code))) x := by
  induction h with
  | pure hfails _ => exact .pure fun code he => hs code (hfails _ he)
  | emit _ he _ => exact .emit he
  | log _ _ => exact .log _
  | @transact _ _ command shifted _ _ _ =>
    simpa [ReplyFails] using EndsAtFault.transact command shifted
  | @bind s _ _ _ _ fails fails' _ _ x y f g hx _ hstop ihx ihf ihstop =>
    refine (ihx hs).bind (fun b hnot => ?_) fun b code b' he => ?_
    · have hR := (hx.both b).1
      by_cases hfails : ∃ e, fails (x b).value e
      · obtain ⟨e, he⟩ := hfails
        exact ihstop _ _ _ e hR he fun code heq => hnot code (heq ▸ he)
      · exact ihf _ _ _ hR (not_exists.1 hfails) hs
    · -- what follows a failure does nothing, and ends with it
      have hrest := hstop _ _ _ _ (hx.both b).1 he
      exact ⟨List.eq_nil_iff_forall_not_mem.2 fun e => hrest.does_of_mem b' e,
        (hrest.both b').1.1⟩

/-- An activity takes alike boards for one when it does not read the SPI NOR status. -/
theorem steady (h : InStep s fails R x y) (hs : s ≤ .steady) : Steady x := by
  induction h with
  | pure _ _ => exact .pure _
  | emit _ _ _ => exact .emit _
  | log _ _ => exact .log _
  | transact hdoes _ _ => exact .transact (hs.does _ (hdoes none) _ rfl) _
  | @bind s _ _ _ _ fails _ _ _ x y f g hx _ _ ihx ihf ihstop =>
    refine (ihx hs).bind fun board => ?_
    have hR := (hx.both board).1
    by_cases hfails : ∃ e, fails (x board).value e
    · obtain ⟨e, he⟩ := hfails
      exact ihstop _ _ _ e hR he ⟨fun _ => False.elim, fun _ _ => trivial, fun _ _ => trivial⟩
    · exact ihf _ _ _ hR (not_exists.1 hfails) hs

end InStep

end Drive

end FlashBoot
