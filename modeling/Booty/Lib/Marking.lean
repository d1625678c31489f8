import Mathlib

namespace Booty.Lib

open Set

/-!
# Marking what is reachable

A search marks its start and goes on to the neighbours of everything it marks; it stops at what is
marked already, also at what an unfinished call further up has marked.  `Marks` says what such a
call has done: everything new is reachable, and the neighbours of everything new are marked.

* `Marks.refl`, `Marks.trans` — nothing to do; one search after another.
* `Marks.node` — a node is marked before its neighbours are searched.
* `Marks.eq_reachable` — from the empty set a search ends with what is reachable.
-/

variable {α : Type}

/-- The set `S` of marked nodes has grown to `S'` by a search from `A`. -/
structure Marks (next : α → α → Prop) (A S S' : Set α) : Prop where
  grows : S ⊆ S'
  found : A ⊆ S'
  only : ∀ d ∈ S', d ∈ S ∨ ∃ r ∈ A, Relation.ReflTransGen next r d
  closed : ∀ x ∈ S', x ∉ S → ∀ y, next x y → y ∈ S'

namespace Marks

variable {next : α → α → Prop} {A B S S1 S2 : Set α}

theorem refl (h : A ⊆ S) : Marks next A S S where
  grows := subset_rfl
  found := h
  only _ hd := .inl hd
  closed _ hx hx' := absurd hx hx'

theorem trans (h : Marks next A S S1) (h' : Marks next B S1 S2) : Marks next (A ∪ B) S S2 where
  grows := h.grows.trans h'.grows
  found := union_subset (h.found.trans h'.grows) h'.found
  only d hd := by grind [h'.only, h.only]
  closed x hx hnew y hxy := by
    by_cases hx1 : x ∈ S1
    · exact h'.grows (h.closed x hx1 hnew y hxy)
    · exact h'.closed x hx hx1 y hxy

/-- A node, and then a search from its neighbours. -/
theorem node {a : α} (h : Marks next {y | next a y} (insert a S) S1) : Marks next {a} S S1 where
  grows := (subset_insert a S).trans h.grows
  found := singleton_subset_iff.mpr (h.grows (mem_insert a S))
  only d hd := by
    obtain (rfl | hd) | ⟨y, hy, hreach⟩ := h.only d hd
    · exact .inr ⟨d, rfl, .refl⟩
    · exact .inl hd
    · exact .inr ⟨a, rfl, .head hy hreach⟩
  closed x hx hnew y hxy := by
    by_cases hxa : x = a
    · subst hxa
      exact h.found hxy
    · exact h.closed x hx (fun hmem => hmem.elim hxa hnew) y hxy

/-- **What a search finds** from the empty set: everything reachable and nothing else. -/
theorem eq_reachable (h : Marks next A ∅ S1) (d : α) :
    d ∈ S1 ↔ ∃ r ∈ A, Relation.ReflTransGen next r d := by
  constructor
  · intro hd
    obtain hd | hreach := h.only d hd
    · exact hd.elim
    · exact hreach
  · rintro ⟨r, hr, hreach⟩
    induction hreach with
    | refl => exact h.found hr
    | tail _ hxy ih => exact h.closed _ ih (notMem_empty _) _ hxy

end Marks

end Booty.Lib
