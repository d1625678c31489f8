import Mathlib

namespace Booty.Lib

open List Relation

/-!
# The winner of a pairwise elimination

A list is folded with a pairwise comparison that need not be transitive: the current champion is
replaced by every element that beats it.  Which elements can win depends on the order of the list,
and only on who dominates whom:

* `champion_dominates` — the winner reaches every element through a chain of wins, when of two
  different elements at least one beats the other.
* `exists_perm_champion` — every element with such chains to all others wins for some order.
-/

namespace Tournament

variable {α : Type}

/-- The champion after the challengers in the list have met it one by one. -/
def champion (beats : α → α → Bool) (best : α) (l : List α) : α :=
  l.foldl (fun best p => if beats p best then p else best) best

/-- One win of the list: `a` and `b` are in it and `a` beats `b`. -/
def Wins (beats : α → α → Bool) (l : List α) (a b : α) : Prop :=
  a ∈ l ∧ b ∈ l ∧ beats a b = true

/-- **Dominance.** `a` is in the list and reaches each of its elements through a chain of
    wins. -/
def Dominates (beats : α → α → Bool) (l : List α) (a : α) : Prop :=
  a ∈ l ∧ ∀ b ∈ l, Relation.ReflTransGen (Wins beats l) a b

variable {beats : α → α → Bool} {l l' : List α} {a b : α}

theorem champion_cons (best p : α) (l : List α) :
    champion beats best (p :: l) = champion beats (if beats p best then p else best) l := rfl

theorem champion_append (best : α) (l l' : List α) :
    champion beats best (l ++ l') = champion beats (champion beats best l) l' :=
  foldl_append

/-- Dominance does not depend on the order of the list. -/
theorem Dominates.perm (h : Dominates beats l a) (hp : l.Perm l') : Dominates beats l' a := by
  have hwins : Wins beats l = Wins beats l' := by
    funext a b
    simp only [Wins, hp.mem_iff]
  refine ⟨hp.mem_iff.mp h.1, fun b hb => ?_⟩
  rw [← hwins]
  exact h.2 b (hp.mem_iff.mpr hb)

/-- The champion is the first one or one of the challengers. -/
theorem champion_mem (beats : α → α → Bool) (best : α) (l : List α) :
    champion beats best l = best ∨ champion beats best l ∈ l := by
  induction l generalizing best with
  | nil => exact .inl rfl
  | cons p l ih => grind [champion_cons]

/-- **The winner dominates the list.** -/
theorem champion_dominates (htotal : ∀ a ∈ l, ∀ b ∈ l, a ≠ b → beats a b = true ∨ beats b a = true)
    {best : α} {rest : List α} (hl : l = best :: rest) :
    Dominates beats l (champion beats best rest) := by
  -- The invariant of the fold: the champion reaches everyone it has met so far.
  have hfold : ∀ (todo seen : List α) (c : α), c ∈ l → seen ⊆ l → todo ⊆ l →
      (∀ b ∈ seen, ReflTransGen (Wins beats l) c b) →
      ∀ b, b ∈ seen ∨ b ∈ todo → ReflTransGen (Wins beats l) (champion beats c todo) b := by
    intro todo
    induction todo with
    | nil => aesop
    | cons p todo ih =>
      intro seen c hc hsub htodo hseen b hb
      have hp : p ∈ l := htodo mem_cons_self
      have hp' : p :: seen ⊆ l := cons_subset.mpr ⟨hp, hsub⟩
      have hb' : b ∈ p :: seen ∨ b ∈ todo := by
        rcases hb with hb | hb
        · exact .inl (mem_cons_of_mem p hb)
        · grind
      rw [champion_cons]
      by_cases hbeat : beats p c = true
      · -- The challenger wins and reaches the others through the old champion.
        rw [if_pos hbeat]
        refine ih (p :: seen) p hp hp' (fun x hx => htodo (mem_cons_of_mem p hx)) ?_ b hb'
        intro x hx
        rcases mem_cons.mp hx with rfl | hx
        · exact .refl
        · exact .head ⟨hp, hc, hbeat⟩ (hseen x hx)
      · rw [if_neg hbeat]
        refine ih (p :: seen) c hc hp' (fun x hx => htodo (mem_cons_of_mem p hx)) ?_ b hb'
        intro x hx
        rcases mem_cons.mp hx with rfl | hx
        · by_cases hxc : x = c
          · rw [hxc]
          · have hwin := (htotal x hp c hc hxc).resolve_left hbeat
            exact .single ⟨hc, hp, hwin⟩
        · exact hseen x hx
  have hbest : best ∈ l := hl ▸ mem_cons_self
  have hrest : rest ⊆ l := fun x hx => hl ▸ mem_cons_of_mem best hx
  constructor
  · grind [champion_mem]
  · intro b hb
    refine hfold rest [best] best hbest (by simpa using hbest) hrest ?_ b ?_
    · intro x hx
      rw [mem_singleton.mp hx]
    · rw [hl] at hb
      simpa using hb

/-- Challengers of which one beats the champion end with one of them as champion. -/
theorem champion_mem_of_beaten {m n : α} {l : List α} (hn : n ∈ l) (hb : beats n m = true) :
    champion beats m l ∈ l := by
  induction l with
  | nil => exact absurd hn not_mem_nil
  | cons p l ih =>
    rw [champion_cons]
    split
    next h => grind [champion_mem]
    next h => grind

/-- Seen from a set `N` that reaches every element, the elements outside `N` are reached from
    those that `N` beats, without passing through `N`. -/
theorem reach_outside {N : α → Bool} {n v : α} (hn : N n = true) (hv : N v = false)
    (hreach : ReflTransGen (Wins beats l) n v) :
    ∃ m, (N m = false ∧ ∃ n', N n' = true ∧ Wins beats l n' m) ∧
      ReflTransGen (Wins beats (l.filter fun x => !N x)) m v := by
  induction hreach with
  | refl => rw [hn] at hv; exact absurd hv (by simp)
  | @tail u v _ huv ih =>
    by_cases hu : N u = true
    · exact ⟨v, ⟨hv, u, hu, huv⟩, .refl⟩
    · have hu : N u = false := by simpa using hu
      obtain ⟨m, hm, hmu⟩ := ih hu
      have hedge : Wins beats (l.filter fun x => !N x) u v := by
        refine ⟨?_, ?_, huv.2.2⟩
        · grind [huv.1]
        · grind [huv.2.1]
      exact ⟨m, hm, hmu.tail hedge⟩

/-- From a set that reaches every element, some order of the list makes one of the set the
    winner. -/
theorem exists_perm_champion_mem (beats : α → α → Bool) (k : Nat) :
    ∀ (l : List α) (N : α → Bool), l.length ≤ k → l ≠ [] →
    (∀ v ∈ l, ∃ n ∈ l, N n = true ∧ ReflTransGen (Wins beats l) n v) →
    ∃ best rest, (best :: rest).Perm l ∧ N (champion beats best rest) = true := by
  induction k with
  | zero => grind
  | succ k ih =>
    intro l N hk hne hreach
    -- The elements outside `N` come first, those of `N` last.
    have hperm : (l.filter (fun x => !N x) ++ l.filter N).Perm l :=
      (perm_append_comm).trans (filter_append_perm N l)
    obtain ⟨n0, hn0, hN0, -⟩ : ∃ n ∈ l, N n = true ∧ True := by
      obtain ⟨v, hv⟩ := exists_mem_of_ne_nil l hne
      obtain ⟨n, hn, hN, -⟩ := hreach v hv
      exact ⟨n, hn, hN, trivial⟩
    have hin : n0 ∈ l.filter N := mem_filter.mpr ⟨hn0, hN0⟩
    by_cases hout : l.filter (fun x => !N x) = []
    · -- Everyone is in `N`.
      have hall : ∀ x ∈ l, N x = true := by
        intro x hx
        have := filter_eq_nil_iff.mp hout x hx
        simpa using this
      obtain ⟨best, rest, rfl⟩ := exists_cons_of_ne_nil hne
      refine ⟨best, rest, Perm.refl _, ?_⟩
      rcases champion_mem beats best rest with h | h
      · rw [h]; exact hall _ mem_cons_self
      · exact hall _ (mem_cons_of_mem _ h)
    · have hlen : (l.filter fun x => !N x).length ≤ k := by
        have hlt : (l.filter fun x => !N x).length + (l.filter N).length = l.length := by
          rw [← length_append, hperm.length_eq]
        have : 0 < (l.filter N).length := length_pos_of_mem hin
        omega
      -- Among those outside, one that `N` beats can be made the winner.
      classical
      obtain ⟨best, rest, hp, hwin⟩ := ih (l.filter fun x => !N x)
        (fun m => decide (N m = false ∧ ∃ n', N n' = true ∧ Wins beats l n' m)) hlen hout (by
          intro v hv
          have hv' := mem_filter.mp hv
          obtain ⟨n, -, hN, hnv⟩ := hreach v hv'.1
          obtain ⟨m, hm, hmv⟩ := reach_outside hN (by simpa using hv'.2) hnv
          refine ⟨m, ?_, decide_eq_true hm, hmv⟩
          have hml : m ∈ l := hm.2.elim fun n' h => h.2.2.1
          exact mem_filter.mpr ⟨hml, by rw [hm.1]; rfl⟩)
      obtain ⟨-, n', hN', hn'⟩ := of_decide_eq_true hwin
      refine ⟨best, rest ++ l.filter N, ?_, ?_⟩
      · grind
      · -- It then loses to `N`, and only members of `N` come after it.
        rw [champion_append]
        have hmem : champion beats (champion beats best rest) (l.filter N) ∈ l.filter N :=
          champion_mem_of_beaten (mem_filter.mpr ⟨hn'.1, hN'⟩) hn'.2.2
        exact (mem_filter.mp hmem).2

/-- **Every dominating element wins for some order.** -/
theorem exists_perm_champion [DecidableEq α] (h : Dominates beats l a) :
    ∃ best rest, (best :: rest).Perm l ∧ champion beats best rest = a := by
  have hne : l ≠ [] := ne_nil_of_mem h.1
  obtain ⟨best, rest, hp, hwin⟩ := exists_perm_champion_mem beats l.length l
    (fun x => decide (x = a)) (Nat.le_refl _) hne (by
      grind [h.1, h.2])
  exact ⟨best, rest, hp, of_decide_eq_true hwin⟩

end Tournament

end Booty.Lib
