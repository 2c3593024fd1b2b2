import FlashBoot.Bus

/-!
# Reading over old memory

A read is a transfer in place, so what the buffer held before is at hand while it runs. `SameWrites`
compares two buffers before and after: every byte was overwritten with the same value in both, or
left alone in both. Two transfers are the same when they end alike and write the same
(`SameTransfer`), whatever their buffers held.
-/

namespace FlashBoot

/-- From `old` and `old'` to `new` and `new'` the same bytes were written: a byte is afterwards
equal in both, or in both what it was. -/
structure SameWrites (old old' new new' : List UInt8) : Prop where
  length : new.length = old.length
  length' : new'.length = old'.length
  byte : ∀ i : Nat, new[i]? = new'[i]? ∨ new[i]? = old[i]? ∧ new'[i]? = old'[i]?

namespace SameWrites

variable {old old' mid mid' new new' more more' : List UInt8}

theorem refl (old old' : List UInt8) : SameWrites old old' old old' :=
  ⟨rfl, rfl, fun _ => .inr ⟨rfl, rfl⟩⟩

theorem of_eq (hlen : new.length = old.length) (hlen' : new.length = old'.length) :
    SameWrites old old' new new :=
  ⟨hlen, hlen', fun _ => .inl rfl⟩

theorem length_eq (h : SameWrites old old' new new') (hlen : old.length = old'.length) :
    new.length = new'.length := by
  rw [h.length, h.length', hlen]

theorem trans (h : SameWrites old old' mid mid') (h' : SameWrites mid mid' new new') :
    SameWrites old old' new new' := by
  refine ⟨h'.length.trans h.length, h'.length'.trans h.length', fun i => ?_⟩
  obtain heq | ⟨hnew, hnew'⟩ := h'.byte i
  · exact .inl heq
  · rw [hnew, hnew']
    exact h.byte i

theorem append {tail tail' : List UInt8} (h : SameWrites old old' new new')
    (ht : SameWrites tail tail' more more') (hlen : old.length = old'.length) :
    SameWrites (old ++ tail) (old' ++ tail') (new ++ more) (new' ++ more') := by
  have hn := h.length
  have hn' := h.length'
  refine ⟨by simp [hn, ht.length], by simp [hn', ht.length'], fun i => ?_⟩
  rcases Nat.lt_or_ge i old.length with hi | hi
  · rw [List.getElem?_append_left (by omega), List.getElem?_append_left (by omega),
      List.getElem?_append_left hi, List.getElem?_append_left (by omega)]
    exact h.byte i
  · rw [List.getElem?_append_right (by omega), List.getElem?_append_right (by omega),
      List.getElem?_append_right hi, List.getElem?_append_right (by omega), hn, hn', ← hlen]
    exact ht.byte _

/-- Writing into the front of two buffers. -/
theorem front (hlen : old.length = old'.length) {n : Nat}
    (h : SameWrites (old.take n) (old'.take n) new new')
    (ht : SameWrites (old.drop n) (old'.drop n) more more') :
    SameWrites old old' (new ++ more) (new' ++ more') := by
  have happ := h.append ht (by rw [List.length_take, List.length_take, hlen])
  rwa [List.take_append_drop, List.take_append_drop] at happ

end SameWrites

/-- Two transfers that end alike and write the same; when they end well nothing old is left. -/
structure SameTransfer (buffer buffer' : List UInt8) (t t' : Transfer) : Prop where
  result : t.result = t'.result
  writes : SameWrites buffer buffer' t.buffer t'.buffer
  filled : t.result = .ok () → t.buffer = t'.buffer

theorem SameTransfer.untouched {e : Failure} (buffer buffer' : List UInt8) :
    SameTransfer buffer buffer' ⟨.error e, buffer⟩ ⟨.error e, buffer'⟩ :=
  ⟨rfl, .refl _ _, nofun⟩

end FlashBoot
