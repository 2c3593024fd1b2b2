import FlashBoot.Proofs.Catalog

/-!
# What a lookup finds

A lookup finds the first part in scan order whose significant bytes the identifier starts with
(`Part.FirstMatch`), and parts that can match nothing are as good as absent (`Part.CanMatch`,
`Part.find?_congr`).

`Build.finds_firstMatch` says so of the parts of a build and those of a board behind them. So a
board can add parts without harm (`Build.Finds`): what a built-in part matches stays what it is
whatever the board brings, and what one of its own parts matches stays when more parts follow.
-/

namespace FlashBoot

namespace Part

variable {p : Part} {ps qs : List Part} {id : JedecId}

/-- The part matches the identifier, and stands behind parts of the list that do not. -/
def FirstMatch (id : JedecId) (ps : List Part) (p : Part) : Prop :=
  ∃ before after, ps = before ++ p :: after ∧ p.Matches id ∧ ∀ q ∈ before, ¬ q.Matches id

theorem find?_eq_some_iff (h : ∀ p ∈ ps, p.idLength ≤ 6) :
    find? id ps = .ok (some p) ↔ FirstMatch id ps p := by
  rw [find?_eq h, Except.ok.injEq, List.find?_eq_some_iff_append]
  constructor
  · rintro ⟨hp, before, after, hps, hbefore⟩
    exact ⟨before, after, hps, by simpa using hp, by simpa using hbefore⟩
  · rintro ⟨before, after, hps, hp, hbefore⟩
    exact ⟨by simpa using hp, before, after, hps, by simpa using hbefore⟩

theorem find?_eq_none_iff (h : ∀ p ∈ ps, p.idLength ≤ 6) :
    find? id ps = .ok none ↔ ∀ p ∈ ps, ¬ p.Matches id := by
  rw [find?_eq h, Except.ok.injEq, List.find?_eq_none]
  simp

/-- A match is not disturbed by what stands behind it. -/
theorem find?_append_of_some (h : find? id ps = .ok (some p)) (qs : List Part) :
    find? id (ps ++ qs) = .ok (some p) := by
  rw [find?_append, h]

/-- Some bytes of the part count, and no more than are read from a device. -/
def CanMatch (p : Part) : Prop := 1 ≤ p.idLength ∧ p.idLength ≤ 5

instance (p : Part) : Decidable p.CanMatch := inferInstanceAs (Decidable (_ ∧ _))

theorem Matches.canMatch (h : p.Matches id) : p.CanMatch := ⟨h.1, h.2.1⟩

/-- Lists with the same parts that can match, in the same order, are the same to a lookup. -/
theorem find?_congr (hps : ∀ p ∈ ps, p.idLength ≤ 6) (hqs : ∀ q ∈ qs, q.idLength ≤ 6)
    (h : ps.filter (·.CanMatch) = qs.filter (·.CanMatch)) : find? id ps = find? id qs := by
  have hfilter : ∀ l : List Part, (l.filter (·.CanMatch)).find? (·.Matches id) =
      l.find? (·.Matches id) := by
    intro l
    rw [List.find?_filter]
    congr 1
    funext p
    simpa using Matches.canMatch
  rw [find?_eq hps, find?_eq hqs, ← hfilter ps, ← hfilter qs, h]

end Part

namespace Build

/-- How an identifier is looked up among the parts of a build and those of a board. -/
structure Finds (b : Build) (custom : List Part) (id : JedecId) : Prop where
  found : ∀ p, Part.find? id (b.candidates custom) = .ok (some p) ↔
    Part.FirstMatch id (b.candidates custom) p
  absent : Part.find? id (b.candidates custom) = .ok none ↔
    ∀ p ∈ b.candidates custom, ¬ p.Matches id
  /-- Where a built-in part matches, the parts of the board do not matter, whatever they are. -/
  builtIn : ∀ p ∈ b.parts, p.Matches id → ∀ custom',
    Part.find? id (b.candidates custom') = Part.find? id (b.candidates custom)
  /-- More parts of the board do not change what is found without them. -/
  appended : ∀ p more, Part.find? id (b.candidates custom) = .ok (some p) →
    Part.find? id (b.candidates (custom ++ more)) = .ok (some p)
  /-- Parts that can match nothing are left out, put in and moved around freely, built-in or not:
  what remains without them is all that matters. -/
  skipped : ∀ ps : List Part, (∀ p ∈ ps, p.idLength ≤ 6) →
    ps.filter (·.CanMatch) = (b.candidates custom).filter (·.CanMatch) →
    Part.find? id ps = Part.find? id (b.candidates custom)

/-- In any build, a lookup finds the first part that the identifier starts with. -/
theorem finds_firstMatch (b : Build) {custom : List Part} (h : ∀ p ∈ custom, p.idLength ≤ 6)
    (id : JedecId) : b.Finds custom id := by
  have hlen := idLength_candidates (b := b) h
  refine ⟨fun p => Part.find?_eq_some_iff hlen, Part.find?_eq_none_iff hlen,
    fun p hp hmatch custom' => ?_, fun p more hfind => ?_,
    fun ps hps hfilter => Part.find?_congr hps hlen hfilter⟩
  · obtain ⟨q, -, -, hq⟩ := Part.exists_find? (fun _ => idLength_le) hp hmatch
    rw [candidates, candidates, Part.find?_append_of_some hq, Part.find?_append_of_some hq]
  · rw [candidates, ← List.append_assoc]
    exact Part.find?_append_of_some hfind more

/-- A part of a board whose identifier no vendor of the tables has. -/
def boardPart : Part := .ofIds "board" 0xABCDEF 0 (64 * 1024) 8 {.sect4K}

/-- A part of six significant bytes, which are never all read. -/
def longPart : Part := .ofLongIds "long" 0xABCDEF 0x010203 (64 * 1024) 16 {}

theorem finds_firstMatch_boardPart :
    (∀ p ∈ [longPart, boardPart], p.idLength ≤ 6) ∧
    Part.find? ⟨#v[0xAB, 0xCD, 0xEF, 0x01, 0x02]⟩ (standard.candidates [longPart, boardPart]) =
      .ok (some boardPart) ∧
    Part.find? ⟨#v[0xAB, 0xCD, 0xEF, 0x01, 0x02]⟩
      (standard.candidates ([longPart, boardPart] ++ [longPart])) = .ok (some boardPart) ∧
    Part.find? ⟨#v[0xAB, 0xCD, 0xEF, 0x01, 0x02]⟩ (standard.candidates [boardPart]) =
      .ok (some boardPart) := by
  have hlen : ∀ p ∈ [longPart, boardPart], p.idLength ≤ 6 := by decide
  have hfinds := standard.finds_firstMatch hlen ⟨#v[0xAB, 0xCD, 0xEF, 0x01, 0x02]⟩
  have hfirst : Part.FirstMatch ⟨#v[0xAB, 0xCD, 0xEF, 0x01, 0x02]⟩
      (standard.candidates [longPart, boardPart]) boardPart :=
    ⟨standard.parts ++ [longPart], [], by simp [candidates], by decide, by decide +kernel⟩
  have hfind := (hfinds.found boardPart).2 hfirst
  have hshort : ∀ p ∈ standard.candidates [boardPart], p.idLength ≤ 6 :=
    idLength_candidates (by decide)
  have hskip := hfinds.skipped (standard.candidates [boardPart]) hshort (by
    rw [candidates, candidates, List.filter_append, List.filter_append]
    rfl)
  exact ⟨hlen, hfind, hfinds.appended boardPart [longPart] hfind, hskip.trans hfind⟩

end Build

end FlashBoot
