import Mathlib

namespace Booty.Lib

open List

/-!
# A table of mounts

The mounts of a system in the order in which they were made, each at a path.  A mount covers its
path and everything below it, so a path leads to the latest mount at it or above it.

* `reached` — the mount at a path that the path leads to, with what is before and after it.
* `Uncovered` — no mount of a kind is below a later mount, or at the same path.
* `Uncovered.reached` — such a mount is reached by its path.
-/

variable {M N : Type}

/-- The last element with a property, with what is before and after it. -/
def lastSplit (q : M → Bool) : List M → Option (List M × M × List M)
  | [] => none
  | x :: xs =>
    match lastSplit q xs with
    | some (pre, m, post) => some (x :: pre, m, post)
    | none => if q x then some ([], x, xs) else none

theorem lastSplit_eq_none {q : M → Bool} {l : List M} :
    lastSplit q l = none ↔ ∀ x ∈ l, q x = false := by
  induction l with
  | nil => simp [lastSplit]
  | cons x xs ih =>
    rw [lastSplit, forall_mem_cons, ← ih]
    cases hrest : lastSplit q xs <;> simp

/-- The last element of its kind. -/
theorem lastSplit_eq_some {q : M → Bool} {l pre post : List M} {m : M} :
    lastSplit q l = some (pre, m, post) ↔
      l = pre ++ m :: post ∧ q m = true ∧ ∀ x ∈ post, q x = false := by
  induction l generalizing pre m post with
  | nil => simp [lastSplit]
  | cons x xs ih =>
    rw [lastSplit]
    cases hrest : lastSplit q xs with
    | some r =>
      obtain ⟨pre', m', post'⟩ := r
      constructor
      · grind
      · rintro ⟨hl, hm, hpost⟩
        cases pre with
        | nil =>
          -- `m` would be the head, but the rest has an element with the property
          grind
        | cons y pre => grind
    | none =>
      have hnone := lastSplit_eq_none.mp hrest
      constructor
      · grind
      · rintro ⟨hl, hm, hpost⟩
        cases pre <;> grind

section

variable [DecidableEq N] (point : M → List N)

/-- The mount at a path that the path leads to. -/
def reached (t : List M) (p : List N) : Option (List M × M × List M) :=
  match lastSplit (fun m => decide (point m <+: p)) t with
  | some (pre, m, post) => if point m = p then some (pre, m, post) else none
  | none => none

/-- No mount of the kind `S` has a later mount at its path or above it. -/
def Uncovered (S : M → Prop) (t : List M) : Prop :=
  t.Pairwise fun m x => S m → ¬ point x <+: point m

end

variable [DecidableEq N] {point : M → List N} {t pre post : List M} {m x : M} {p : List N}
  {S : M → Prop}

/-- The mount that a path leads to is the last one whose point is the path, uncovered. -/
theorem reached_eq_some : reached point t p = some (pre, m, post) ↔
    t = pre ++ m :: post ∧ point m = p ∧ ∀ x ∈ post, ¬ point x <+: p := by
  unfold reached
  constructor
  · intro h
    split at h
    next pre' m' post' hsplit =>
      split_ifs at h with hp
      cases h
      obtain ⟨hl, -, hpost⟩ := lastSplit_eq_some.mp hsplit
      exact ⟨hl, hp, by simpa using hpost⟩
    next => cases h
  · rintro ⟨hl, rfl, hpost⟩
    have hsplit : lastSplit (fun x => decide (point x <+: point m)) t = some (pre, m, post) :=
      lastSplit_eq_some.mpr ⟨hl, by simp, by simpa using hpost⟩
    simp [hsplit]

/-- **Reach.** An uncovered mount is the one that its path leads to, and no other of its kind is
    there. -/
theorem Uncovered.reached (h : Uncovered point S t) (hm : m ∈ t) (hS : S m) :
    ∃ pre post, Booty.Lib.reached point t (point m) = some (pre, m, post) ∧
      ∀ y ∈ pre ++ post, S y → point y ≠ point m := by
  obtain ⟨pre, post, rfl⟩ := append_of_mem hm
  obtain ⟨-, hrest, hcross⟩ := pairwise_append.mp h
  have hpost : ∀ x ∈ post, ¬ point x <+: point m := fun x hx =>
    (pairwise_cons.mp hrest).1 x hx hS
  refine ⟨pre, post, reached_eq_some.mpr ⟨rfl, rfl, hpost⟩, fun y hy hSy heq => ?_⟩
  rcases mem_append.mp hy with hy | hy
  · grind
  · exact hpost y hy (heq ▸ prefix_rfl)

/-- **Covered.** A mount with a later one at its path or above it is not the one reached. -/
theorem mem_of_reached_covered {y : M} (hsub : [m, x].Sublist t) (hcover : point x <+: point m)
    (h : reached point t (point m) = some (pre, y, post)) : m ∈ pre := by
  obtain ⟨rfl, -, hpost⟩ := reached_eq_some.mp h
  obtain ⟨a, b, hab, ha, hb⟩ := sublist_append_iff.mp hsub
  -- `x` is not behind `y`, so `m`, which is before `x`, is before `y`
  cases a <;> grind

/-- Taking away a mount at another path keeps the order of two mounts. -/
theorem sublist_of_reached {y : M} {l : List M} (hsub : l.Sublist t)
    (hne : ∀ z ∈ l, point z ≠ p) (h : reached point t p = some (pre, y, post)) :
    l.Sublist (pre ++ post) := by
  obtain ⟨rfl, hy, -⟩ := reached_eq_some.mp h
  have hfilter := hsub.filter fun z => decide (point z ≠ p)
  have hself : l.filter (fun z => decide (point z ≠ p)) = l :=
    filter_eq_self.mpr fun z hz => by simpa using hne z hz
  have hdrop : (pre ++ y :: post).filter (fun z => decide (point z ≠ p)) =
      (pre ++ post).filter fun z => decide (point z ≠ p) := by
    simp [hy]
  rw [hself, hdrop] at hfilter
  exact hfilter.trans filter_sublist

end Booty.Lib
