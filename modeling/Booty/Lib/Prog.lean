import Booty.Lib.Outcome

namespace Booty.Lib

/-!
# Stateful programs and their specifications

`Prog σ ε α` is a Go function that works on a mutable world `σ` and returns `(α, error)`: it
ends with a value, an error or a fault, and the world it leaves behind exists in all three
cases.

`Sat m s Q E F` specifies a run of `m` from `s`: a returned value and the world after it satisfy
`Q`, a returned error and the world after it satisfy `E`, and a fault is possible only when `F`
holds.  With `F := True` this is partial correctness, with `F := False` it also says that the
program ends by itself.

* `sat_bind`, `sat_mapErr`, `Sat.mono` — sequences, wrapped errors, consequence;
* `fetch` and `focus` with `sat_fetch`, `sat_focus` — a part of the world that must be there;
* `handle` with `sat_handle` — a program that goes on after an error;
* `loop` with `sat_loop` — Go's `for { … }` with an invariant that may count the iterations
  left.
-/

/-- A program over the world `σ`. -/
def Prog (σ ε α : Type) : Type := σ → Outcome ε α × σ

namespace Prog

variable {σ ε ε' α β : Type}

/-- Return a value. -/
def ret (a : α) : Prog σ ε α := fun s => (.ok a, s)

/-- Run `m`, then go on with its value. -/
def bind (m : Prog σ ε α) (f : α → Prog σ ε β) : Prog σ ε β := fun s =>
  match m s with
  | (.ok a, s') => f a s'
  | (.err e, s') => (.err e, s')
  | (.fault p, s') => (.fault p, s')

instance : Monad (Prog σ ε) where
  pure := ret
  bind := bind

/-- Return an error. -/
def fail (e : ε) : Prog σ ε α := fun s => (.err e, s)

/-- A computation that does not touch the world. -/
def lift (x : Outcome ε α) : Prog σ ε α := fun s => (x, s)

/-- A total action on the world. -/
def act (f : σ → α × σ) : Prog σ ε α := fun s => (.ok (f s).1, (f s).2)

/-- Wrap the error of a program. -/
def mapErr (g : ε → ε') (m : Prog σ ε α) : Prog σ ε' α := fun s =>
  ((m s).1.mapErr g, (m s).2)

/-- A program over a part of the world. -/
def onFst {τ : Type} (m : Prog σ ε α) : Prog (σ × τ) ε α := fun s =>
  ((m s.1).1, ((m s.1).2, s.2))

/-- Read a part of the world; a part that is not there is an index out of range. -/
def fetch (get : σ → Option α) : Prog σ ε α := fun s =>
  match get s with
  | some a => (.ok a, s)
  | none => (.fault .outOfRange, s)

/-- A program over a part of the world that must be there. -/
def focus {τ : Type} (get : σ → Option τ) (put : τ → σ → σ) (m : Prog τ ε α) : Prog σ ε α :=
  fun s =>
  match get s with
  | some t => ((m t).1, put (m t).2 s)
  | none => (.fault .outOfRange, s)

/-- Run `m` and go on with its value, or with its error. -/
def handle (m : Prog σ ε α) (k : α → Prog σ ε' β) (h : ε → Prog σ ε' β) : Prog σ ε' β := fun s =>
  match m s with
  | (.ok a, s') => k a s'
  | (.err e, s') => h e s'
  | (.fault p, s') => (.fault p, s')

/-- What one iteration of a loop ends with. -/
inductive Step (α β : Type)
  | next (a : α)
  | done (b : β)

/-- `for { … }` with loop variables `α`; `fuel` bounds the number of iterations. -/
def loop (body : α → Prog σ ε (Step α β)) : Nat → α → Prog σ ε β
  | 0, _ => lift (.fault .outOfFuel)
  | fuel + 1, a => do
    match ← body a with
    | .next a' => loop body fuel a'
    | .done b => pure b

/-! ### Specifications -/

/-- A run of `m` from `s` ends in `Q` or `E`, or with a fault where `F` allows one. -/
def Sat (m : Prog σ ε α) (s : σ) (Q : α → σ → Prop) (E : ε → σ → Prop) (F : Prop) : Prop :=
  match (m s).1 with
  | .ok a => Q a (m s).2
  | .err e => E e (m s).2
  | .fault _ => F

variable {m : Prog σ ε α} {f : α → Prog σ ε β} {s : σ} {Q : α → σ → Prop} {R : β → σ → Prop}
  {E : ε → σ → Prop} {F : Prop}

@[simp] theorem sat_pure {a : α} : Sat (pure a : Prog σ ε α) s Q E F ↔ Q a s := Iff.rfl
@[simp] theorem sat_fail {e : ε} : Sat (fail e : Prog σ ε α) s Q E F ↔ E e s := Iff.rfl
@[simp] theorem sat_act {g : σ → α × σ} :
    Sat (act g : Prog σ ε α) s Q E F ↔ Q (g s).1 (g s).2 := Iff.rfl

/-- **Going on after an error.** -/
theorem sat_handle {k : α → Prog σ ε' β} {h : ε → Prog σ ε' β} {E' : ε' → σ → Prop}
    (hm : Sat m s (fun a s' => Sat (k a) s' R E' F) (fun e s' => Sat (h e) s' R E' F) F) :
    Sat (handle m k h) s R E' F := by
  unfold Sat at hm
  unfold Sat handle
  generalize m s = r at hm ⊢
  obtain ⟨r, s'⟩ := r
  cases r <;> exact hm

/-- **Sequencing.** -/
theorem sat_bind (hm : Sat m s (fun a s' => Sat (f a) s' R E F) E F) : Sat (m >>= f) s R E F :=
  sat_handle (h := fail) hm

theorem sat_bindAct {g : σ → α × σ} (h : Sat (f (g s).1) (g s).2 R E F) :
    Sat (act g >>= f) s R E F := sat_bind (sat_act.mpr h)

section

variable {Q' : α → σ → Prop} {E' : ε → σ → Prop} (hm : Sat m s Q E F)
  (hQ : ∀ a s', Q a s' → Q' a s')
include hm hQ

/-- **Consequence**, with another condition for faults. -/
theorem Sat.mono_fault {F' : Prop} (hE : ∀ e s', E e s' → E' e s') (hF : F → F') :
    Sat m s Q' E' F' := by
  unfold Sat at hm ⊢
  generalize m s = r at hm ⊢
  obtain ⟨r, s'⟩ := r
  cases r with
  | ok a => exact hQ a s' hm
  | err e => exact hE e s' hm
  | fault p => exact hF hm

/-- **Consequence.** -/
theorem Sat.mono (hE : ∀ e s', E e s' → E' e s') : Sat m s Q' E' F := hm.mono_fault hQ hE id

theorem Sat.imp : Sat m s Q' E F := hm.mono hQ fun _ _ h => h

end

/-- **Sequencing** through what the first part ends in. -/
theorem Sat.seq (hm : Sat m s Q E F) (hf : ∀ a s', Q a s' → Sat (f a) s' R E F) :
    Sat (m >>= f) s R E F := sat_bind (hm.imp hf)

/-- The first part returns no errors. -/
theorem Sat.seq_ok (hm : Sat m s Q (fun _ _ => False) F)
    (hf : ∀ a s', Q a s' → Sat (f a) s' R E F) : Sat (m >>= f) s R E F :=
  sat_bind (hm.mono hf fun _ _ h => h.elim)

/-- What every value comes with that the program returns. -/
abbrev Returns (m : Prog σ ε α) (s : σ) (Q : α → σ → Prop) : Prop :=
  Sat m s Q (fun _ _ => True) True

/-- A run without a fault, whose error leaves the world as it was. -/
abbrev Safe (m : Prog σ ε α) (s : σ) (Q : α → σ → Prop) : Prop :=
  Sat m s Q (fun _ s' => s' = s) False

theorem safe_fail {e : ε} : Safe (fail e : Prog σ ε α) s Q := sat_fail.mpr rfl

theorem sat_mapErr {g : ε → ε'} {E' : ε' → σ → Prop}
    (hm : Sat m s Q (fun e s' => E' (g e) s') F) : Sat (mapErr g m) s Q E' F := by
  unfold Sat at hm
  unfold Sat mapErr
  generalize m s = r at hm ⊢
  obtain ⟨r, s'⟩ := r
  cases r <;> exact hm

theorem sat_lift {x : Outcome ε α} (hQ : ∀ a, x = .ok a → Q a s) (hE : ∀ e, x = .err e → E e s)
    (hF : ∀ p, x = .fault p → F) : Sat (lift x : Prog σ ε α) s Q E F := by
  cases x with
  | ok a => exact hQ a rfl
  | err e => exact hE e rfl
  | fault p => exact hF p rfl

/-- A computation that cannot fault. -/
theorem safe_lift {x : Outcome ε α} (hx : x.NoFault) (hQ : ∀ a, Q a s) :
    Safe (lift x : Prog σ ε α) s Q :=
  sat_lift (fun a _ => hQ a) (fun _ _ => rfl) (fun q hq => absurd hq (hx q))

theorem sat_onFst {τ : Type} {s : σ × τ} {Q : α → σ × τ → Prop} {E : ε → σ × τ → Prop}
    (hm : Sat m s.1 (fun a s' => Q a (s', s.2)) (fun e s' => E e (s', s.2)) F) :
    Sat (onFst m) s Q E F := by aesop

theorem sat_ite {c : Prop} [Decidable c] {m' : Prog σ ε α} (hm : c → Sat m s Q E F)
    (hm' : ¬c → Sat m' s Q E F) : Sat (if c then m else m') s Q E F := by grind

/-- Either branch will do. -/
theorem sat_either {c : Prop} [Decidable c] {m' : Prog σ ε α} (hm : Sat m s Q E F)
    (hm' : Sat m' s Q E F) : Sat (if c then m else m') s Q E F := sat_ite (fun _ => hm) fun _ => hm'

theorem safe_unless {c : Prop} [Decidable c] {e : ε} (h : ¬c → Safe m s Q) :
    Safe (if c then fail e else m) s Q := sat_ite (fun _ => safe_fail) h

theorem sat_fetch {get : σ → Option α} {a : α} (hget : get s = some a) (hQ : Q a s) :
    Sat (fetch get : Prog σ ε α) s Q E F := by
  unfold Sat fetch
  rw [hget]
  exact hQ

/-- **A program over a part of the world.** -/
theorem sat_focus {τ : Type} {get : σ → Option τ} {put : τ → σ → σ} {m : Prog τ ε α} {t : τ}
    (hget : get s = some t)
    (hm : Sat m t (fun a t' => Q a (put t' s)) (fun e t' => E e (put t' s)) F) :
    Sat (focus get put m) s Q E F := by
  unfold Sat at hm
  unfold Sat focus
  rw [hget]
  dsimp only
  generalize m t = r at hm ⊢
  obtain ⟨r, s'⟩ := r
  cases r <;> exact hm

/-- A run is no fault when its specification allows none. -/
theorem Sat.noFault (hm : Sat m s Q E False) (p : Fault) : (m s).1 ≠ .fault p := by
  intro hp
  unfold Sat at hm
  rw [hp] at hm
  exact hm

/-- What holds after a value and after an error holds after every run without a fault. -/
theorem Sat.state {I : σ → Prop} (hm : Sat m s (fun _ s' => I s') (fun _ s' => I s') False) :
    I (m s).2 := by
  unfold Sat at hm
  generalize m s = r at hm ⊢
  obtain ⟨r, s'⟩ := r
  cases r with
  | ok a => exact hm
  | err e => exact hm
  | fault p => exact hm.elim

/-- What holds anyway holds after every run. -/
theorem sat_of_forall (hQ : ∀ a s', Q a s') (hE : ∀ e s', E e s') (hF : F) : Sat m s Q E F := by
  unfold Sat
  split
  · exact hQ _ _
  · exact hE _ _
  · exact hF

/-- A run that returns a value. -/
theorem sat_of_ok {a : α} (h : (m s).1 = .ok a) (hQ : Q a (m s).2) : Sat m s Q E F := by
  unfold Sat
  rw [h]
  exact hQ

/-- The run of another program. -/
theorem sat_of_run {m' : Prog σ ε α} (h : m' s = m s) (hm : Sat m s Q E F) : Sat m' s Q E F := by
  unfold Sat at hm ⊢
  rw [h]
  exact hm

/-- A run that returns an error. -/
theorem sat_of_err {e : ε} (h : (m s).1 = .err e) (hE : E e (m s).2) : Sat m s Q E F := by
  unfold Sat
  rw [h]
  exact hE

/-- What a run that returned a value satisfies. -/
theorem Sat.of_ok {a : α} (hm : Sat m s Q E F) (h : (m s).1 = .ok a) : Q a (m s).2 := by
  unfold Sat at hm
  rw [h] at hm
  exact hm

/-- What a run that returned an error satisfies. -/
theorem Sat.of_err {e : ε} (hm : Sat m s Q E F) (h : (m s).1 = .err e) : E e (m s).2 := by
  unfold Sat at hm
  rw [h] at hm
  exact hm

/-- A run that can neither fail nor fault returns a value. -/
theorem Sat.exists_ok (hm : Sat m s Q E F) (hE : ∀ e s', ¬E e s') (hF : ¬F) :
    ∃ a, (m s).1 = .ok a := by
  unfold Sat at hm
  cases h : (m s).1 with
  | ok a => exact ⟨a, rfl⟩
  | err e =>
    rw [h] at hm
    exact absurd hm (hE e _)
  | fault p =>
    rw [h] at hm
    exact absurd hm hF

/-- **Loops.**  `I n a s` holds before every iteration, with `n` more iterations allowed; when
    none is left, a fault is permitted or the invariant is impossible. -/
theorem sat_loop {body : α → Prog σ ε (Step α β)} (I : Nat → α → σ → Prop)
    (hzero : ∀ a s, I 0 a s → F) (hstep : ∀ n a s, I (n + 1) a s → Sat (body a) s
      (fun r s' => match r with | .next a' => I n a' s' | .done b => R b s') E F)
    {fuel : Nat} {a : α} (h : I fuel a s) : Sat (loop body fuel a) s R E F := by
  -- Induction on the iterations left; the invariant carries over to the next one.
  induction fuel generalizing a s with
  | zero => exact hzero a s h
  | succ n ih =>
    refine sat_bind ((hstep n a s h).mono (fun r s' hr => ?_) (fun _ _ he => he))
    cases r with
    | next a' => exact ih hr
    | done b => exact hr

/-- A computation that may fault satisfies every partial specification that allows it. -/
theorem sat_fault {p : Fault} (hF : F) : Sat (lift (.fault p) : Prog σ ε α) s Q E F := hF

-- Specifications are only used through these rules; unfolding one would run the program.
attribute [irreducible] Sat

end Prog

end Booty.Lib
