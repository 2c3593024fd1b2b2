import FlashBoot.Flash.Erase

/-!
# Bounded polling

A poll asks until it gets an answer other than no, which is a yes or an error, but only as often as
it may: `retries` times, and once at least. `polled retries answer` is how it ends, and how many
questions it took, when the `k`-th question is answered `answer k`.

The answers are told by the first one that is not no, if there is any (`Settles`). `poll_bounded`:
the poll ends with that answer when it comes in time, after exactly the questions up to it, and is
exhausted after all its questions otherwise. So it depends on the answers it may ask for alone, and
what ended it ends every longer poll (`BoundedPoll`).
-/

namespace FlashBoot

variable {ε : Type}

/-- A question whose `k`-th answer is `answer k`; the state counts the questions. -/
def question (answer : Nat → Except ε Bool) : ExceptT ε (StateM Nat) Bool :=
  ExceptT.mk fun k => (answer k, k + 1)

/-- How a poll of that question ends, and after how many questions. -/
def polled (retries : Nat) (answer : Nat → Except ε Bool) : Except ε Poll × Nat :=
  (poll retries (question answer)).run.run 0

/-- The `i`-th answer is the first one that is not no. -/
structure Settles (answer : Nat → Except ε Bool) (i : Nat) : Prop where
  settled : answer i ≠ .ok false
  before : ∀ k < i, answer k = .ok false

/-- How a poll ends that is answered by `answer`. -/
structure BoundedPoll (retries : Nat) (answer : Nat → Except ε Bool) : Prop where
  /-- The first answer that is not no ends the poll, if it comes in time: an error as itself. -/
  settles : ∀ i, Settles answer i → i < max retries 1 →
    polled retries answer = ((answer i).map fun _ => .ready, i + 1)
  /-- It comes too late. -/
  late : ∀ i, Settles answer i → max retries 1 ≤ i →
    polled retries answer = (.ok .exhausted, max retries 1)
  /-- It never comes. -/
  never : (∀ i, ¬ Settles answer i) → polled retries answer = (.ok .exhausted, max retries 1)
  /-- Only the answers that may be asked for matter. -/
  congr : ∀ answer', (∀ k < max retries 1, answer' k = answer k) →
    polled retries answer' = polled retries answer
  /-- What ended a poll ends every longer one. -/
  longer : (polled retries answer).1 ≠ .ok .exhausted →
    ∀ more ≥ retries, polled more answer = polled retries answer

/-! ## The loop -/

section
variable {answer : Nat → Except ε Bool} {n k i : Nat}

/-- How a loop of at most `n` questions ends, and after how many, when `k` were asked before. -/
def polledFrom (answer : Nat → Except ε Bool) (n k : Nat) : Except ε Poll × Nat :=
  (pollTimes (question answer) n).run.run k

theorem polledFrom_succ (answer : Nat → Except ε Bool) (n k : Nat) :
    polledFrom answer (n + 1) k = match answer k with
      | .ok true => (.ok .ready, k + 1)
      | .ok false => polledFrom answer n (k + 1)
      | .error e => (.error e, k + 1) := by
  have hask : (question answer).run.run k = (answer k, k + 1) := rfl
  simp only [polledFrom, pollTimes, ExceptT.run_bind, StateT.run_bind, hask]
  rcases answer k with e | _ | _ <;> rfl

/-- A no goes on to the next question. -/
theorem polledFrom_succ_of_no (h : answer k = .ok false) :
    polledFrom answer (n + 1) k = polledFrom answer n (k + 1) := by
  rw [polledFrom_succ, h]

/-- Any other answer ends the loop. -/
theorem polledFrom_succ_of_settled (h : answer k ≠ .ok false) :
    polledFrom answer (n + 1) k = ((answer k).map fun _ => .ready, k + 1) := by
  rw [polledFrom_succ]
  rcases hk : answer k with e | _ | _
  · rfl
  · exact absurd hk h
  · rfl

/-- The answers up to the one that ends the loop decide it. -/
theorem polledFrom_of_settles (h : Settles answer i) (hk : k ≤ i) (hi : i < k + n) :
    polledFrom answer n k = ((answer i).map fun _ => .ready, i + 1) := by
  induction n generalizing k with
  | zero => omega
  | succ n ih =>
    rcases Nat.lt_or_eq_of_le hk with hlt | rfl
    · rw [polledFrom_succ_of_no (h.before k hlt)]
      exact ih hlt (by omega)
    · exact polledFrom_succ_of_settled h.settled

theorem polledFrom_of_no (h : ∀ j < k + n, answer j = .ok false) :
    polledFrom answer n k = (.ok .exhausted, k + n) := by
  induction n generalizing k with
  | zero => rfl
  | succ n ih =>
    rw [polledFrom_succ_of_no (h k (by omega)), ih fun j hj => h j (by omega)]
    congr 1
    omega

/-- Some answer in time is the first that is not no, or all of them are no. -/
theorem settles_or_no (answer : Nat → Except ε Bool) (n : Nat) :
    (∃ i < n, Settles answer i) ∨ ∀ j < n, answer j = .ok false := by
  induction n with
  | zero => exact .inr nofun
  | succ n ih =>
    obtain ⟨i, hi, hsettles⟩ | hno := ih
    · exact .inl ⟨i, by omega, hsettles⟩
    · by_cases hn : answer n = .ok false
      · refine .inr fun j hj => ?_
        rcases Nat.lt_succ_iff_lt_or_eq.1 hj with hlt | rfl
        · exact hno j hlt
        · exact hn
      · exact .inl ⟨n, by omega, hn, hno⟩

end

/-! ## The poll -/

section
variable {answer : Nat → Except ε Bool} {retries i : Nat}

theorem polled_of_settles (h : Settles answer i) (hi : i < max retries 1) :
    polled retries answer = ((answer i).map fun _ => .ready, i + 1) :=
  polledFrom_of_settles h (Nat.zero_le i) (by omega)

theorem polled_of_no (h : ∀ j < max retries 1, answer j = .ok false) :
    polled retries answer = (.ok .exhausted, max retries 1) := by
  have hloop := polledFrom_of_no (n := max retries 1) (k := 0) fun j hj => h j (by omega)
  rwa [Nat.zero_add] at hloop

end

/-- Every poll is bounded. -/
theorem poll_bounded (retries : Nat) (answer : Nat → Except ε Bool) :
    BoundedPoll retries answer := by
  refine ⟨fun i => polled_of_settles, fun i h hi => ?_, fun h => ?_, fun answer' hsame => ?_,
    fun hended more hmore => ?_⟩
  · exact polled_of_no fun j hj => h.before j (by omega)
  · obtain ⟨i, -, hi⟩ | hno := settles_or_no answer (max retries 1)
    · exact absurd hi (h i)
    · exact polled_of_no hno
  · obtain ⟨i, hi, hsettles⟩ | hno := settles_or_no answer (max retries 1)
    · have hsettles' : Settles answer' i := by
        refine ⟨?_, fun k hk => ?_⟩
        · rw [hsame i hi]
          exact hsettles.settled
        · rw [hsame k (by omega)]
          exact hsettles.before k hk
      rw [polled_of_settles hsettles hi, polled_of_settles hsettles' hi, hsame i hi]
    · rw [polled_of_no hno, polled_of_no fun j hj => (hsame j hj).trans (hno j hj)]
  · obtain ⟨i, hi, hsettles⟩ | hno := settles_or_no answer (max retries 1)
    · rw [polled_of_settles hsettles hi, polled_of_settles hsettles (by omega)]
    · exact absurd (congrArg Prod.fst (polled_of_no hno)) hended

end FlashBoot
