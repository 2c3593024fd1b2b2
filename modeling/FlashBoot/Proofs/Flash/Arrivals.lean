import FlashBoot.Proofs.Flash.Ways

/-!
# What arrives of a read

`arrivals` counts the response bytes of the fast reads that went well. A read ends well exactly if
all its bytes arrived (`Geometry.Reads.arrives`).
-/

namespace FlashBoot

/-- The bytes that a fast read brought in. -/
def Event.arrived : Event → Nat
  | .transaction t =>
    if t.opcode = Opcode.fastRead.byte ∧ t.fault = none then t.shifted.length else 0
  | _ => 0

/-- The bytes that fast reads brought in. -/
def arrivals (es : List Event) : Nat := (es.map Event.arrived).sum

@[simp] theorem arrivals_append (es es' : List Event) :
    arrivals (es ++ es') = arrivals es + arrivals es' := by
  rw [arrivals, List.map_append, List.sum_append]
  rfl

@[simp] theorem arrivals_cons (e : Event) (es : List Event) :
    arrivals (e :: es) = e.arrived + arrivals es :=
  List.sum_cons

theorem arrivals_eq_zero {es : List Event} (h : ∀ e ∈ es, e.arrived = 0) : arrivals es = 0 := by
  induction es with
  | nil => rfl
  | cons e es ih =>
    rw [arrivals_cons, h e List.mem_cons_self, Nat.zero_add]
    exact ih fun e he => h e (List.mem_cons_of_mem _ he)

theorem arrived_fetched (g : Geometry) (address count : Nat) :
    (Event.fetched (g.fastRead address) count).arrived = count := by
  simp [Event.fetched, Event.arrived, Transaction.opcode, Geometry.fastRead]

theorem arrived_struck (command : List UInt8) (count : Nat) (code : UInt8) :
    (Event.struck command count code).arrived = 0 := by
  simp [Event.struck, Event.arrived]

/-- What a read of `n` bytes that ends with this result asked of the header parser and brought
in. -/
structure Arrives (n : Nat) (r : Except Failure Unit) (es : List Event) : Prop where
  headers : headerCalls es = []
  all : r = .ok () → arrivals es = n
  some : ∀ e, r = .error e → arrivals es < n

/-- A read that brings nothing in. -/
theorem Arrives.nothing {n : Nat} (h : 0 < n) (e : Failure) : Arrives n (.error e) [] :=
  ⟨rfl, nofun, fun _ _ => h⟩

namespace Geometry

variable {g : Geometry} {x : UInt32} {n : Nat} {r : Except Failure Unit} {t : Trace}

theorem ReadsChunks.arrives (h : g.ReadsChunks x n r t) : Arrives n r t.events := by
  induction h with
  | done x => exact ⟨rfl, fun _ => rfl, nofun⟩
  | refused hpos _ => exact .nothing hpos _
  | @struck x n k a code hpos hle _ _ =>
    refine ⟨rfl, nofun, fun _ _ => ?_⟩
    change arrivals [.struck (g.fastRead a.value.toNat) k code] < n
    rw [arrivals_cons, arrived_struck]
    exact Nat.lt_of_lt_of_le hpos hle
  | @arrived x n k a r t hpos _ _ _ ih =>
    have hfirst : arrivals (.fetched (g.fastRead a.value.toNat) k :: t.events) =
        k + arrivals t.events := by
      rw [arrivals_cons, arrived_fetched]
    refine ⟨ih.headers, fun hok => ?_, fun e he => ?_⟩
    · exact hfirst.trans (congrArg (k + ·) (ih.all hok))
    · have hsome := ih.some e he
      exact Nat.lt_of_le_of_lt (Nat.le_of_eq hfirst) (by omega)

theorem Reads.arrives (h : g.Reads x n r t) : Arrives n r t.events := by
  cases h with
  | beyond hpos _ => exact .nothing hpos _
  | trapped hpos _ => exact .nothing hpos _
  | unreachable hpos _ _ => exact .nothing hpos _
  | chunks _ _ hchunks => exact hchunks.arrives

end Geometry

end FlashBoot
