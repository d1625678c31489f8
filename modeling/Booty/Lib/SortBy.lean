import Mathlib

namespace Booty.Lib

open List

/-!
# Sorting by a key, and reordering through a partial map

* `sortBy f l` sorts a list by the key `f`; `sortBy_eq_of_perm` — where the key tells different
  elements apart, the result depends only on what is in the list.
* `find?_sortBy` — the first hit in the sorted list is the hit with the least key.
* `exists_perm_filterMap` — every order of the values that a partial map yields comes from an order
  of the list it is mapped over.
-/

variable {α β : Type} [LinearOrder β]

/-- The list sorted by the key `f`. -/
def sortBy (f : α → β) (l : List α) : List α := l.insertionSort (fun a b => f a ≤ f b)

/-- Sorting loses nothing. -/
theorem sortBy_perm (f : α → β) (l : List α) : (sortBy f l).Perm l := perm_insertionSort _ l

@[simp] theorem mem_sortBy {f : α → β} {l : List α} {a : α} : a ∈ sortBy f l ↔ a ∈ l :=
  (sortBy_perm f l).mem_iff

/-- The list is sorted. -/
theorem sortBy_pairwise (f : α → β) (l : List α) :
    (sortBy f l).Pairwise (fun a b => f a ≤ f b) := by
  exact pairwise_insertionSort _ l

/-- **Sorting forgets the order of the list**, when no two elements have the same key. -/
theorem sortBy_eq_of_perm {f : α → β} (hf : Function.Injective f) {l l' : List α}
    (h : l.Perm l') : sortBy f l = sortBy f l' := by
  have hperm : (sortBy f l).Perm (sortBy f l') :=
    (sortBy_perm f l).trans (h.trans (sortBy_perm f l').symm)
  refine hperm.eq_of_pairwise (fun a b _ _ hab hba => ?_) (sortBy_pairwise f l)
    (sortBy_pairwise f l')
  exact hf (le_antisymm hab hba)

/-- **The first hit in the sorted list** is the hit with the least key. -/
theorem find?_sortBy {f : α → β} {l : List α} (hf : (l.map f).Nodup) (p : α → Bool) :
    (sortBy f l).find? p = (l.filter p).argmin f := by
  cases hfind : (sortBy f l).find? p with
  | none =>
    have hnil : l.filter p = [] := by
      rw [filter_eq_nil_iff]
      intro a ha
      exact find?_eq_none.mp hfind a (mem_sortBy.mpr ha)
    rw [hnil]
    rfl
  | some a =>
    obtain ⟨hpa, front, rest, hsorted, hfront⟩ := find?_eq_some_iff_append.mp hfind
    have hal : a ∈ l := mem_sortBy.mp (mem_of_find?_eq_some hfind)
    have hfilter : a ∈ l.filter p := mem_filter.mpr ⟨hal, hpa⟩
    cases hmin : (l.filter p).argmin f with
    | none => grind [argmin_eq_none.mp]
    | some m =>
      obtain ⟨hml, hpm⟩ := mem_filter.mp (argmin_mem hmin)
      have hle : f m ≤ f a := le_of_mem_argmin hfilter hmin
      -- `m` is in the sorted list, and not before the first hit.
      have hmem : m ∈ front ++ a :: rest := hsorted ▸ mem_sortBy.mpr hml
      have hge : f a ≤ f m := by
        rcases mem_append.mp hmem with h | h
        · grind
        · rcases mem_cons.mp h with rfl | h
          · exact le_refl _
          · have hpair := sortBy_pairwise f l
            rw [hsorted, pairwise_append, pairwise_cons] at hpair
            exact hpair.2.1.1 m h
      rw [inj_on_of_nodup_map hf hal hml (le_antisymm hge hle)]

/-- **Reordering through a partial map.** -/
theorem exists_perm_filterMap {γ : Type} (f : α → Option γ) {l l' : List γ} (h : l.Perm l') :
    ∀ xs : List α, xs.filterMap f = l → ∃ ys : List α, ys.Perm xs ∧ ys.filterMap f = l' := by
  induction h with
  | nil => exact fun xs hxs => ⟨xs, .refl _, hxs⟩
  | cons x _ ih =>
    intro xs hxs
    obtain ⟨pre, y, post, rfl, hpre, hy, hpost⟩ := filterMap_eq_cons_iff.mp hxs
    obtain ⟨post', hperm, hpost'⟩ := ih post hpost
    refine ⟨pre ++ y :: post', (hperm.cons y).append_left pre, ?_⟩
    rw [filterMap_append, filterMap_cons_some hy, hpost', filterMap_eq_nil_iff.mpr hpre, nil_append]
  | swap x x' l =>
    intro xs hxs
    obtain ⟨pre, y, post, rfl, hpre, hy, hpost⟩ := filterMap_eq_cons_iff.mp hxs
    obtain ⟨pre', y', post', rfl, hpre', hy', hpost'⟩ := filterMap_eq_cons_iff.mp hpost
    -- `y'` moves in front of `y`; what lies between them yields nothing.
    refine ⟨pre ++ y' :: y :: (pre' ++ post'), Perm.append_left pre ?_, ?_⟩
    · exact (Perm.swap y y' _).trans ((perm_middle (a := y')).symm.cons y)
    · simp_all
  | trans _ _ ih1 ih2 =>
    intro xs hxs
    obtain ⟨ys, hys, hmap⟩ := ih1 xs hxs
    obtain ⟨zs, hzs, hmap'⟩ := ih2 ys hmap
    exact ⟨zs, hzs.trans hys, hmap'⟩

end Booty.Lib
