import FlashBoot.Drive

/-!
# The path of an activity

`Drive.Goes x b a b' es`: started on the board `b`, the activity `x` ends with the value `a` on
the board `b'`, having done `es`. What it logs is left out. Paths compose along sequencing, a
failure ending them early (`Run.Goes.bind`, `Run.Goes.bind_error`), so the path of a function is
put together from those of the functions it calls.
-/

namespace FlashBoot

/-- Started on `b`, the activity ends with `a` on the board `b'`, having done `es`. -/
structure Drive.Goes {α : Type} (x : Drive α) (b : Board) (a : α) (b' : Board) (es : List Event) :
    Prop where
  value : (x b).value = a
  board : (x b).board = b'
  events : (x b).events = es

namespace Drive.Goes

variable {α β : Type} {x : Drive α} {b b' b'' : Board} {a : α} {v : β} {es es' : List Event}

theorem pure (a : α) (b : Board) : Goes (pure a) b a b [] := ⟨rfl, rfl, rfl⟩

theorem log (m : Message) (b : Board) : Goes (Drive.log m) b () b [] := ⟨rfl, rfl, rfl⟩

theorem emit (e : Event) (b : Board) : Goes (Drive.emit e) b () b [e] := ⟨rfl, rfl, rfl⟩

theorem bind {f : α → Drive β} (hx : Goes x b a b' es) (hf : Goes (f a) b' v b'' es') :
    Goes (x >>= f) b v b'' (es ++ es') := by
  obtain ⟨rfl, rfl, rfl⟩ := hx
  refine ⟨hf.value, hf.board, ?_⟩
  rw [bind_apply, Outcome.events, Trace.events_append]
  exact congrArg _ hf.events

/-- The second activity does nothing on the board. -/
theorem bind_silent {f : α → Drive β} (hx : Goes x b a b' es) (hf : Goes (f a) b' v b'' []) :
    Goes (x >>= f) b v b'' es := by
  have h := hx.bind hf
  rwa [List.append_nil] at h

theorem log_bind {m : Message} (h : Goes x b a b' es) : Goes (do Drive.log m; x) b a b' es :=
  (log m b).bind h

theorem of_eq {a' : α} (h : Goes x b a b' es) (ha : a = a') : Goes x b a' b' es :=
  ha ▸ h

theorem map (g : α → β) (h : Goes x b a b' es) : Goes (g <$> x) b (g a) b' es :=
  ⟨congrArg g h.value, h.board, h.events⟩

end Drive.Goes

/-- Started on `b`, the activity ends with `r` on the board `b'`, having done `es`. -/
def Run.Goes {α : Type} (x : Run α) (b : Board) (r : Except Failure α) (b' : Board)
    (es : List Event) : Prop :=
  Drive.Goes x.run b r b' es

namespace Run.Goes

variable {α β : Type} {x : Run α} {b b' b'' : Board} {a : α} {r : Except Failure α}
  {v : Except Failure β} {es es' : List Event}

theorem of_apply {t : Trace} (h : x b = ⟨r, b', t⟩) : Goes x b r b' t.events :=
  ⟨congrArg Outcome.value h, congrArg Outcome.board h, congrArg Outcome.events h⟩

theorem pure (a : α) (b : Board) : Goes (pure a) b (.ok a) b [] := ⟨rfl, rfl, rfl⟩

theorem fail (e : Error) (b : Board) : Goes (Run.fail (α := α) e) b (.error (.error e)) b [] :=
  ⟨rfl, rfl, rfl⟩

theorem lift {x : Drive α} (h : Drive.Goes x b a b' es) :
    Goes (liftM x : Run α) b (.ok a) b' es :=
  ⟨congrArg Except.ok h.value, h.board, h.events⟩

theorem bind {f : α → Run β} (hx : Goes x b (.ok a) b' es) (hf : Goes (f a) b' v b'' es') :
    Goes (x >>= f) b v b'' (es ++ es') :=
  Drive.Goes.bind hx (f := ExceptT.bindCont f) hf

/-- The second activity does nothing on the board. -/
theorem bind_silent {f : α → Run β} (hx : Goes x b (.ok a) b' es) (hf : Goes (f a) b' v b'' []) :
    Goes (x >>= f) b v b'' es := by
  have h := hx.bind hf
  rwa [List.append_nil] at h

theorem bind_error {f : α → Run β} {e : Failure} (hx : Goes x b (.error e) b' es) :
    Goes (x >>= f) b (.error e) b' es := by
  have h := Drive.Goes.bind hx (f := ExceptT.bindCont f)
    (.pure (Except.error e : Except Failure β) b')
  rwa [List.append_nil] at h

theorem log_bind {m : Message} (h : Goes x b r b' es) : Goes (do Drive.log m; x) b r b' es :=
  Goes.bind (.lift (.log m b)) h

theorem emit_bind {e : Event} (h : Goes x b r b' es) :
    Goes (do Drive.emit e; x) b r b' (e :: es) :=
  Goes.bind (.lift (.emit e b)) h

theorem logError (h : Goes x b r b' es) (m : Message) : Goes (Run.logError x m) b r b' es :=
  ⟨(value_logError x m b).trans h.value, (board_logError x m b).trans h.board,
    (events_logError x m b).trans h.events⟩

end Run.Goes

end FlashBoot
