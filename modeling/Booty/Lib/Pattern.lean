import Mathlib

namespace Booty.Lib

open List Bool

/-!
# Anchored patterns

The regular expressions `^…$` that are built from literal text, `.*`, groups of two alternatives and
optional groups.

* `Pattern.Matches` — the texts of a pattern.
* `Pattern.run` — a matcher with backtracking; `fullMatch_iff` says that it finds every match.
* `Pattern.text` — how the pattern is written.
-/

/-- The patterns. -/
inductive Pattern
  | chars (s : List Char)
  /-- `.*`: any characters except the newline. -/
  | dots
  | seq (a b : Pattern)
  | alt (a b : Pattern)
  | opt (a : Pattern)
deriving DecidableEq, Repr

namespace Pattern

/-- The text of a pattern. -/
def text : Pattern → List Char
  | chars s => s
  | dots => ['.', '*']
  | seq a b => a.text ++ b.text
  | alt a b => '(' :: a.text ++ '|' :: b.text ++ [')']
  | opt a => '(' :: a.text ++ [')', '?']

/-- The texts of a pattern. -/
def Matches : Pattern → List Char → Prop
  | chars s, xs => xs = s
  | dots, xs => '\n' ∉ xs
  | seq a b, xs => ∃ u v, xs = u ++ v ∧ a.Matches u ∧ b.Matches v
  | alt a b, xs => a.Matches xs ∨ b.Matches xs
  | opt a, xs => xs = [] ∨ a.Matches xs

/-- `.*` and then what `k` accepts. -/
def runDots (k : List Char → Bool) : List Char → Bool
  | [] => k []
  | c :: cs => k (c :: cs) || (c != '\n' && runDots k cs)

/-- The pattern and then what `k` accepts. -/
def run : Pattern → (List Char → Bool) → List Char → Bool
  | chars s, k, cs => s.isPrefixOf cs && k (cs.drop s.length)
  | dots, k, cs => runDots k cs
  | seq a b, k, cs => a.run (b.run k) cs
  | alt a b, k, cs => a.run k cs || b.run k cs
  | opt a, k, cs => k cs || a.run k cs

/-- `MatchString` of the anchored pattern. -/
def fullMatch (p : Pattern) (cs : List Char) : Bool := p.run List.isEmpty cs

theorem runDots_iff {k : List Char → Bool} {cs : List Char} :
    runDots k cs = true ↔ ∃ u v, cs = u ++ v ∧ '\n' ∉ u ∧ k v = true := by
  induction cs with
  | nil => aesop
  | cons c cs ih =>
    rw [runDots, or_eq_true, and_eq_true, ih]
    constructor
    · rintro (hk | ⟨hc, u, v, rfl, hu, hk⟩)
      · exact ⟨[], c :: cs, rfl, not_mem_nil, hk⟩
      · grind
    · rintro ⟨u, v, h, hu, hk⟩
      cases u with
      | nil => exact .inl (h ▸ hk)
      | cons d u => grind

/-- **The matcher finds every match.** -/
theorem run_iff (p : Pattern) {k : List Char → Bool} {cs : List Char} :
    p.run k cs = true ↔ ∃ u v, cs = u ++ v ∧ p.Matches u ∧ k v = true := by
  induction p generalizing k cs with
  | chars s =>
    rw [run, and_eq_true, isPrefixOf_iff_prefix]
    constructor
    · rintro ⟨⟨v, rfl⟩, hk⟩
      rw [drop_left] at hk
      exact ⟨s, v, rfl, rfl, hk⟩
    · rintro ⟨u, v, rfl, rfl, hk⟩
      rw [drop_left]
      exact ⟨prefix_append u v, hk⟩
  | dots => exact runDots_iff
  -- The rest of the sequence is the continuation of its first part.
  | seq a b iha ihb =>
    rw [run, iha]
    constructor
    · rintro ⟨u, v, rfl, hu, hv⟩
      obtain ⟨v1, v2, rfl, hv1, hk⟩ := ihb.mp hv
      exact ⟨u ++ v1, v2, (append_assoc u v1 v2).symm, ⟨u, v1, rfl, hu, hv1⟩, hk⟩
    · rintro ⟨_, v, rfl, ⟨u1, u2, rfl, h1, h2⟩, hk⟩
      exact ⟨u1, u2 ++ v, append_assoc u1 u2 v, h1, ihb.mpr ⟨u2, v, rfl, h2, hk⟩⟩
  | alt a b iha ihb =>
    rw [run, or_eq_true, iha, ihb]
    constructor
    · rintro (⟨u, v, h, hu, hk⟩ | ⟨u, v, h, hu, hk⟩)
      · exact ⟨u, v, h, .inl hu, hk⟩
      · exact ⟨u, v, h, .inr hu, hk⟩
    · rintro ⟨u, v, h, hu | hu, hk⟩
      · exact .inl ⟨u, v, h, hu, hk⟩
      · exact .inr ⟨u, v, h, hu, hk⟩
  | opt a iha =>
    rw [run, or_eq_true, iha]
    constructor
    · rintro (hk | ⟨u, v, h, hu, hk⟩)
      · exact ⟨[], cs, rfl, .inl rfl, hk⟩
      · exact ⟨u, v, h, .inr hu, hk⟩
    · rintro ⟨u, v, rfl, rfl | hu, hk⟩
      · exact .inl hk
      · exact .inr ⟨u, v, rfl, hu, hk⟩

theorem fullMatch_iff (p : Pattern) (cs : List Char) : p.fullMatch cs = true ↔ p.Matches cs := by
  rw [fullMatch, run_iff]
  constructor
  · grind
  · simp

end Pattern

end Booty.Lib
