import Mathlib

namespace Booty.Lib

/-!
# Objects that a program puts into a shared place

A shared place (a kernel table, a directory) holds objects, some of them put there by the program
and some by others.  `Covered k X` says that every object of the program that is still there is
in `X`; each operation has one rule for how `X` changes, so that a long sequence of operations is
followed by the objects that are still to be recorded.

* `Covered.put`, `Covered.drop` — the rules of the two operations.
* `Covered.mono` — more may be listed than is there.
-/

namespace Ledger

/-- Whether an object is there, and whose it is. -/
inductive Presence
  | absent
  | foreign
  | ours
deriving DecidableEq, Repr

variable {Obj : Type}

section Operations

variable [DecidableEq Obj]

/-- The program adds an object; one that is there already stays as it is. -/
def put (k : Obj → Presence) (o : Obj) : Obj → Presence :=
  fun x => if x = o ∧ k x = .absent then .ours else k x

/-- An object is removed. -/
def drop (k : Obj → Presence) (o : Obj) : Obj → Presence :=
  fun x => if x = o then .absent else k x

end Operations

/-- Every object of the program that is there is in `X`. -/
def Covered (k : Obj → Presence) (X : Set Obj) : Prop := ∀ o, k o = .ours → o ∈ X

variable {k : Obj → Presence} {X Y : Set Obj}

theorem Covered.mono (h : Covered k X) (hXY : X ⊆ Y) : Covered k Y := fun o ho => hXY (h o ho)

variable [DecidableEq Obj] {o : Obj}

/-- An object that the program adds has to be listed. -/
theorem Covered.put (h : Covered k X) : Covered (put k o) (insert o X) := by
  intro x hx
  unfold Ledger.put at hx
  split at hx
  next hc => exact .inl hc.1
  next => exact .inr (h x hx)

/-- An object that is removed no longer has to be listed. -/
theorem Covered.drop (h : Covered k X) : Covered (drop k o) (X \ {o}) := by
  intro x hx
  unfold Ledger.drop at hx
  split at hx
  next => cases hx
  next hne => exact ⟨h x hx, hne⟩

end Ledger

end Booty.Lib
