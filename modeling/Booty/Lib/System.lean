import Mathlib

namespace Booty.Lib

/-!
# Action-driven machines and their runs

A `Machine` is a start state and a step function; every choice the environment makes
(which thread moves, what a call returns, when the clock advances) is in the action, so the
step function is executable and a run is a list of actions.

* `Machine.Reaches ok s` — `s` is reached by a run all of whose steps satisfy `ok`.
* `Machine.Reachable s` — the same without a condition on the steps.
* `Reaches.invariant` — the induction rule: what holds at the start and is kept by every
  permitted step holds in every state reached.
* `Machine.run` and `reachable_of_run` — concrete runs, evaluated; `Machine.guarded` for runs with
  a condition.
-/

/-- A start state and a step function.  `step s a = none` means that `a` is not enabled
    in `s`. -/
structure Machine (S A : Type) where
  start : S
  step : S → A → Option S

namespace Machine

variable {S A : Type} {M : Machine S A} {ok ok' : S → A → Prop} {s s' : S}

/-- The states reached by runs whose steps all satisfy `ok`. -/
inductive Reaches (M : Machine S A) (ok : S → A → Prop) : S → Prop
  | start : Reaches M ok M.start
  | step {s s' : S} {a : A} : Reaches M ok s → ok s a → M.step s a = some s' → Reaches M ok s'

/-- The states reached by any run. -/
def Reachable (M : Machine S A) (s : S) : Prop := M.Reaches (fun _ _ => True) s

/-- **Invariant rule.** A property of the start state that every permitted step keeps
    holds in every state reached. -/
theorem Reaches.invariant {I : S → Prop} (h : M.Reaches ok s) (h0 : I M.start)
    (hstep : ∀ s a s', I s → ok s a → M.step s a = some s' → I s') : I s := by
  induction h with
  | start => exact h0
  | step _ hok hs ih => exact hstep _ _ _ ih hok hs

/-- The invariant rule for unrestricted runs. -/
theorem Reachable.invariant {I : S → Prop} (h : M.Reachable s) (h0 : I M.start)
    (hstep : ∀ s a s', I s → M.step s a = some s' → I s') : I s :=
  Reaches.invariant h h0 (fun s a s' hi _ hs => hstep s a s' hi hs)

/-- Run a list of actions; `none` when one of them is not enabled. -/
def run (M : Machine S A) (s : S) : List A → Option S
  | [] => some s
  | a :: as => (M.step s a).bind (fun s' => M.run s' as)

/-- A concrete run from a reachable state ends in a reachable state. -/
theorem Reachable.run {as : List A} (h : M.Reachable s) (hr : M.run s as = some s') :
    M.Reachable s' := by
  induction as generalizing s with
  | nil => grind [Machine.run]
  | cons a as ih =>
    simp only [Machine.run, Option.bind_eq_some_iff] at hr
    obtain ⟨s1, hs, hr⟩ := hr
    exact ih (Reaches.step h trivial hs) hr

/-- The state a concrete run ends in is reachable. -/
theorem reachable_of_run {as : List A} (hr : M.run M.start as = some s) : M.Reachable s :=
  Reachable.run .start hr

/-- The machine that takes only the steps that `ok` permits. -/
def guarded (M : Machine S A) (ok : S → A → Prop) [∀ s a, Decidable (ok s a)] : Machine S A where
  start := M.start
  step s a := if ok s a then M.step s a else none

/-- A run of the guarded machine is a run of permitted steps. -/
theorem reaches_of_guarded [∀ s a, Decidable (ok s a)] (h : (M.guarded ok).Reachable s) :
    M.Reaches ok s := by
  refine Reachable.invariant h .start fun s a s' hi hs => ?_
  dsimp only [guarded] at hs
  split at hs
  · exact hi.step ‹_› hs
  · cases hs

end Machine

end Booty.Lib
