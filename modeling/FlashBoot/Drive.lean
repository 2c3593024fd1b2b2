import FlashBoot.Board
import FlashBoot.Failure
import FlashBoot.Trace.Event
import FlashBoot.Trace.Message

/-!
# Driving a board

`Drive α` is a piece of driver activity: started on a board it ends with a value, the board as it
left it, and the trace of what happened in between. Activities compose by running the second on the
board the first one left, and their traces join in order (`Drive.bind_apply`).

`Run α` is an activity that may end early with a `Failure`. The board and the trace up to that
point remain, so nothing that was sent is ever forgotten.
-/

namespace FlashBoot

/-- One line of a trace: something seen on the board, or something logged. -/
inductive Entry where
  | event (e : Event)
  | message (m : Message)
  deriving DecidableEq

/-- Everything that happened, in order. -/
abbrev Trace := List Entry

/-- The events of a trace. -/
def Trace.events (t : Trace) : List Event :=
  t.filterMap fun
    | .event e => some e
    | .message _ => none

/-- The log messages of a trace. -/
def Trace.messages (t : Trace) : List Message :=
  t.filterMap fun
    | .event _ => none
    | .message m => some m

namespace Trace

@[simp] theorem events_append (s t : Trace) : Trace.events (s ++ t) = s.events ++ t.events :=
  List.filterMap_append

@[simp] theorem messages_append (s t : Trace) :
    Trace.messages (s ++ t) = s.messages ++ t.messages :=
  List.filterMap_append

@[simp] theorem events_event (e : Event) : Trace.events [.event e] = [e] := rfl

@[simp] theorem events_message (m : Message) : Trace.events [.message m] = [] := rfl

@[simp] theorem messages_event (e : Event) : Trace.messages [.event e] = [] := rfl

@[simp] theorem messages_message (m : Message) : Trace.messages [.message m] = [m] := rfl

end Trace

/-- How an activity ended. -/
structure Outcome (α : Type) where
  value : α
  board : Board
  trace : Trace

/-- What was seen on the board. -/
def Outcome.events {α : Type} (o : Outcome α) : List Event :=
  o.trace.events

/-- What was logged. -/
def Outcome.messages {α : Type} (o : Outcome α) : List Message :=
  o.trace.messages

/-- An activity of the driver on a board. -/
def Drive (α : Type) := Board → Outcome α

namespace Drive

@[always_inline, inline]
instance : Monad Drive where
  pure a := fun board => ⟨a, board, []⟩
  map f x := fun board =>
    let o := x board
    ⟨f o.value, o.board, o.trace⟩
  bind x f := fun board =>
    let first := x board
    let second := f first.value first.board
    ⟨second.value, second.board, first.trace ++ second.trace⟩

@[simp] theorem pure_apply {α : Type} (a : α) (board : Board) :
    (pure a : Drive α) board = ⟨a, board, []⟩ := rfl

@[simp] theorem map_apply {α β : Type} (f : α → β) (x : Drive α) (board : Board) :
    (f <$> x) board = ⟨f (x board).value, (x board).board, (x board).trace⟩ := rfl

theorem bind_apply {α β : Type} (x : Drive α) (f : α → Drive β) (board : Board) :
    (x >>= f) board =
      ⟨(f (x board).value (x board).board).value, (f (x board).value (x board).board).board,
        (x board).trace ++ (f (x board).value (x board).board).trace⟩ := rfl

/-- Something happens that does not involve the flash device. -/
def emit (e : Event) : Drive Unit := fun board => ⟨(), board, [.event e]⟩

/-- Something is logged. -/
def log (m : Message) : Drive Unit := fun board => ⟨(), board, [.message m]⟩

@[simp] theorem emit_apply (e : Event) (board : Board) :
    emit e board = ⟨(), board, [.event e]⟩ := rfl

@[simp] theorem log_apply (m : Message) (board : Board) :
    log m board = ⟨(), board, [.message m]⟩ := rfl

/-- One bus transaction: `command` is sent, then `shifted` while as many response bytes are
captured. -/
def transact (command shifted : List UInt8) : Drive (Except UInt8 (List UInt8)) := fun board =>
  let (reply, after) := board.transact command shifted.length
  let fault := match reply with
    | .ok _ => none
    | .error code => some code
  ⟨reply, after, [.event (.transaction { command, shifted, fault })]⟩

end Drive

/-- An activity that may end early. -/
abbrev Run (α : Type) := ExceptT Failure Drive α

namespace Run

/-- Ends an activity with an error of the driver. -/
def fail {α : Type} (e : Error) : Run α := throw (.error e)

/-- A result that is already known. -/
def ofExcept {α : Type} (r : Except Failure α) : Run α := ExceptT.mk (pure r)

/-- A checked operation, whose trap ends the activity. -/
def ofChecked {α : Type} (r : Except Trap α) : Run α := ofExcept (r.mapError .trap)

/-- Logs a message when an activity ends with an error. A trap leaves nothing to log. -/
def logError {α : Type} (x : Run α) (m : Message) : Run α := ExceptT.mk do
  let result ← x.run
  match result with
  | .error (.error _) => Drive.log m
  | _ => pure ()
  return result

variable {α β : Type}

@[simp] theorem pure_apply (a : α) (board : Board) :
    (pure a : Run α) board = ⟨.ok a, board, []⟩ := rfl

@[simp] theorem fail_apply (e : Error) (board : Board) :
    (fail e : Run α) board = ⟨.error (.error e), board, []⟩ := rfl

@[simp] theorem ofExcept_apply (r : Except Failure α) (board : Board) :
    ofExcept r board = ⟨r, board, []⟩ := rfl

/-- The second activity runs on the board the first one left, unless that one failed. -/
theorem bind_apply (x : Run α) (f : α → Run β) (board : Board) :
    (x >>= f) board = match (x board).value with
      | .ok a => ⟨(f a (x board).board).value, (f a (x board).board).board,
          (x board).trace ++ (f a (x board).board).trace⟩
      | .error e => ⟨.error e, (x board).board, (x board).trace⟩ := by
  refine (Drive.bind_apply (α := Except Failure α) x (ExceptT.bindCont f) board).trans ?_
  cases h : (x board).value <;> simp [ExceptT.bindCont]

/-- Activities that go on alike from where the first part ends are alike. -/
theorem bind_congr {x : Run α} {f g : α → Run β} {board : Board}
    (h : ∀ a, (x board).value = .ok a → f a (x board).board = g a (x board).board) :
    (x >>= f) board = (x >>= g) board := by
  rw [bind_apply, bind_apply]
  cases hv : (x board).value with
  | error e => rfl
  | ok a =>
    dsimp only
    rw [h a hv]

/-- An activity that cannot fail runs to its end before the next one. -/
theorem lift_bind_apply (x : Drive α) (f : α → Run β) (board : Board) :
    (liftM x >>= f : Run β) board =
      ⟨(f (x board).value (x board).board).value, (f (x board).value (x board).board).board,
        (x board).trace ++ (f (x board).value (x board).board).trace⟩ := by
  rw [bind_apply]
  rfl

/-- Noting a failure adds a message and changes nothing else. -/
theorem logError_apply (x : Run α) (m : Message) (board : Board) :
    logError x m board = ⟨(x board).value, (x board).board, (x board).trace ++
      match (x board).value with
      | .error (.error _) => [.message m]
      | _ => []⟩ := by
  refine (Drive.bind_apply (α := Except Failure α) x _ board).trans ?_
  rcases (x board).value with (_ | _) | _ <;> rfl

@[simp] theorem value_logError (x : Run α) (m : Message) (board : Board) :
    (logError x m board).value = (x board).value := by rw [logError_apply]

@[simp] theorem board_logError (x : Run α) (m : Message) (board : Board) :
    (logError x m board).board = (x board).board := by rw [logError_apply]

@[simp] theorem events_logError (x : Run α) (m : Message) (board : Board) :
    (logError x m board).events = (x board).events := by
  rw [logError_apply, Outcome.events, Trace.events_append]
  split <;> simp [Outcome.events, Trace.events]

end Run

end FlashBoot
