import Booty.Lib.FileCalls
import Booty.Lib.Prog

namespace Booty.Lib

open List

/-!
# Programs that can be interrupted

A program works on a disk through calls.  Each call either happens as a whole or not at all, and any
of them can fail with an I/O error; the disk remembers every state it has been in.  A crash stops
the program after some call, so what holds of every state that a run passes holds after a crash.

* `ask`, `change` — a call that only looks, and a call that changes the state.
* `Upholds I m t Q E` — from the state `t`, every state that `m` passes satisfies `I`; a returned
  value and the state after it satisfy `Q`, a returned error and the state after it `E`.
* `upholds_bind`, `upholds_handle`, `upholds_each`, `upholds_eachName` — the rules for programs.
* `Maintains` — the same for an invariant that the last state satisfies as well.
* `Passes` — the same for a run in two phases, with a condition that holds between them.
-/

/-- The state of a disk, the states before it, newest first, and the number of calls so far. -/
structure Disk (τ : Type) where
  now : τ
  past : List τ
  calls : Nat

namespace Disk

variable {τ : Type}

/-- A disk before the first call. -/
def start (t : τ) : Disk τ := ⟨t, [], 0⟩

/-- Every state the disk has been in. -/
def states (w : Disk τ) : List τ := w.now :: w.past

/-- The disk has come from `w` to `w'` through states that satisfy `I`. -/
def Grown (I : τ → Prop) (w w' : Disk τ) : Prop :=
  ∃ l, w'.states = l ++ w.states ∧ ∀ t ∈ l, I t

theorem Grown.refl (I : τ → Prop) (w : Disk τ) : Grown I w w := ⟨[], rfl, by simp⟩

theorem Grown.trans {I : τ → Prop} {w1 w2 w3 : Disk τ} (h : Grown I w1 w2) (h' : Grown I w2 w3) :
    Grown I w1 w3 := by
  obtain ⟨l, hl, hI⟩ := h
  obtain ⟨l', hl', hI'⟩ := h'
  refine ⟨l' ++ l, by rw [hl', hl, append_assoc], fun t ht => ?_⟩
  obtain ht | ht := mem_append.mp ht
  · exact hI' t ht
  · exact hI t ht

theorem Grown.mono {I I' : τ → Prop} {w w' : Disk τ} (h : Grown I w w') (hI : ∀ t, I t → I' t) :
    Grown I' w w' := by
  obtain ⟨l, hl, hall⟩ := h
  exact ⟨l, hl, fun t ht => hI t (hall t ht)⟩

/-- A run that began with `t`. -/
theorem Grown.mem_states {I : τ → Prop} {t t' : τ} {w : Disk τ} (h : Grown I (start t) w)
    (ht : t' ∈ w.states) : t' = t ∨ I t' := by
  obtain ⟨l, hl, hI⟩ := h
  rw [hl] at ht
  obtain ht | ht := mem_append.mp ht
  · exact .inr (hI t' ht)
  · exact .inl (mem_singleton.mp ht)

/-- **Two phases**: states of the first phase only, or one of them in which `C` holds and states of
    the second phase after it. -/
def Phased (I C I' : τ → Prop) (w w' : Disk τ) : Prop :=
  Grown I w w' ∨ ∃ w₁, Grown I w w₁ ∧ C w₁.now ∧ Grown I' w₁ w'

theorem Grown.phased {I C I' : τ → Prop} {w1 w2 w3 : Disk τ} (h : Grown I w1 w2)
    (h' : Phased I C I' w2 w3) : Phased I C I' w1 w3 := by
  obtain h' | ⟨w, hw, hC, h'⟩ := h'
  · exact .inl (h.trans h')
  · exact .inr ⟨w, h.trans hw, hC, h'⟩

/-- A state of a run in two phases. -/
theorem Phased.mem_states {I C I' : τ → Prop} {t t' : τ} {w : Disk τ}
    (h : Phased I C I' (start t) w) (ht : t' ∈ w.states) : t' = t ∨ I t' ∨ I' t' := by
  obtain h | ⟨w1, h1, -, l, hl, hI⟩ := h
  · exact (h.mem_states ht).imp_right .inl
  · rw [hl] at ht
    obtain ht | ht := mem_append.mp ht
    · exact .inr (.inr (hI t' ht))
    · exact (h1.mem_states ht).imp_right .inl

end Disk

namespace Prog

variable {τ ε ε' α β : Type}

/-- No call fails with an I/O error. -/
def Quiet (fails : Nat → Bool) : Prop := ∀ n, fails n = false

/-- A call that only looks. -/
def ask (fails : Nat → Bool) (f : τ → Except Errno α) : Prog (Disk τ) Errno α := fun w =>
  if fails w.calls then (.err .io, { w with calls := w.calls + 1 })
  else
    match f w.now with
    | .ok a => (.ok a, { w with calls := w.calls + 1 })
    | .error e => (.err e, { w with calls := w.calls + 1 })

/-- A call that changes the state. -/
def change (fails : Nat → Bool) (f : τ → Except Errno τ) : Prog (Disk τ) Errno Unit := fun w =>
  if fails w.calls then (.err .io, { w with calls := w.calls + 1 })
  else
    match f w.now with
    | .ok t => (.ok (), ⟨t, w.now :: w.past, w.calls + 1⟩)
    | .error e => (.err e, { w with calls := w.calls + 1 })

variable {σ : Type}

/-- `for _, b := range l { … }`. -/
def each (f : β → Prog σ ε Unit) : List β → Prog σ ε Unit
  | [] => pure ()
  | b :: l => do
    f b
    each f l

/-- `m` with its error wrapped. -/
def wrapErr (g : ε → ε') (m : Prog σ ε α) : Prog σ ε' α := handle m pure fun e => fail (g e)

/-- `m` with a deferred call whose error is ignored. -/
def deferred (m : Prog σ ε α) (c : Prog σ ε' Unit) : Prog σ ε α :=
  handle m (fun a => handle c (fun _ => pure a) fun _ => pure a)
    fun e => handle c (fun _ => fail e) fun _ => fail e

/-- Run `f` on every element in spite of errors, and return the last error. -/
def collect (f : β → Prog σ ε Unit) : List β → Option ε → Prog σ ε' (Option ε)
  | [], err => pure err
  | b :: l, err => handle (f b) (fun _ => collect f l err) fun e => collect f l (some e)

/-- A program that depends on the state. -/
def withState (f : τ → Prog (Disk τ) ε α) : Prog (Disk τ) ε α := fun w => f w.now w

/-! ### Specifications -/

/-- Every state that `m` passes from `t` satisfies `I`, and it ends in `Q` or `E`. -/
def Upholds (I : τ → Prop) (m : Prog (Disk τ) ε α) (t : τ) (Q : α → τ → Prop) (E : ε → τ → Prop) :
    Prop :=
  ∀ w : Disk τ, w.now = t → Sat m w (fun a w' => w.Grown I w' ∧ Q a w'.now)
    (fun e w' => w.Grown I w' ∧ E e w'.now) False

variable {I I' : τ → Prop} {m : Prog (Disk τ) ε α} {f : α → Prog (Disk τ) ε β} {t : τ}
  {Q Q' : α → τ → Prop} {R : β → τ → Prop} {E E' : ε → τ → Prop}

theorem upholds_pure {a : α} (h : Q a t) : Upholds I (pure a) t Q E := by
  rintro w rfl
  exact sat_pure.mpr ⟨.refl I w, h⟩

theorem upholds_fail {e : ε} (h : E e t) : Upholds I (fail e) t Q E := by
  rintro w rfl
  exact sat_fail.mpr ⟨.refl I w, h⟩

/-- **Consequence.** -/
theorem Upholds.mono (h : Upholds I m t Q E) (hI : ∀ t', I t' → I' t')
    (hQ : ∀ a t', Q a t' → Q' a t') (hE : ∀ e t', E e t' → E' e t') : Upholds I' m t Q' E' :=
  fun w hw =>
  (h w hw).mono (fun _ _ ⟨hg, hq⟩ => ⟨hg.mono hI, hQ _ _ hq⟩)
    fun _ _ ⟨hg, he⟩ => ⟨hg.mono hI, hE _ _ he⟩

theorem Upholds.ends (h : Upholds I m t Q E) (hQ : ∀ a t', Q a t' → Q' a t')
    (hE : ∀ e t', E e t' → E' e t') : Upholds I m t Q' E' := h.mono (fun _ hi => hi) hQ hE

theorem Upholds.imp (h : Upholds I m t Q E) (hQ : ∀ a t', Q a t' → Q' a t') :
    Upholds I m t Q' E := h.ends hQ fun _ _ he => he

variable {k : α → Prog (Disk τ) ε' β} {h : ε → Prog (Disk τ) ε' β}

/-- **Going on after an error.** -/
theorem upholds_handle {E' : ε' → τ → Prop}
    (hm : Upholds I m t (fun a t' => Upholds I (k a) t' R E') fun e t' => Upholds I (h e) t' R E') :
    Upholds I (handle m k h) t R E' := by
  intro w hw
  refine sat_handle ((hm w hw).mono (fun a w' ⟨hg, hq⟩ => ?_) fun e w' ⟨hg, he⟩ => ?_)
  · exact (hq w' rfl).mono (fun _ _ ⟨hg', hr⟩ => ⟨hg.trans hg', hr⟩)
      fun _ _ ⟨hg', he⟩ => ⟨hg.trans hg', he⟩
  · exact (he w' rfl).mono (fun _ _ ⟨hg', hr⟩ => ⟨hg.trans hg', hr⟩)
      fun _ _ ⟨hg', he⟩ => ⟨hg.trans hg', he⟩

/-- **Sequencing.** -/
theorem upholds_bind (h : Upholds I m t (fun a t' => Upholds I (f a) t' R E) E) :
    Upholds I (m >>= f) t R E :=
  upholds_handle (h := fail) (h.ends (fun _ _ hq => hq) fun _ _ he => upholds_fail he)

theorem upholds_wrapErr {g : ε → ε'} {E' : ε' → τ → Prop}
    (h : Upholds I m t Q fun e t' => E' (g e) t') : Upholds I (wrapErr g m) t Q E' :=
  upholds_handle (h.ends (fun _ _ hq => upholds_pure hq) fun _ _ he => upholds_fail he)

theorem upholds_ite {c : Prop} [Decidable c] {m' : Prog (Disk τ) ε α}
    (h : c → Upholds I m t Q E) (h' : ¬c → Upholds I m' t Q E) :
    Upholds I (if c then m else m') t Q E := by grind

variable {fails : Nat → Bool}

/-- A call: it works as `g` says, or fails. -/
theorem upholds_call {g : τ → Except Errno β} {m : Prog (Disk τ) Errno α}
    {v : β → α} {n : Disk τ → β → Disk τ} {E : Errno → τ → Prop}
    (hm : ∀ w, m w = if fails w.calls then (.err .io, { w with calls := w.calls + 1 })
      else match g w.now with
        | .ok b => (.ok (v b), n w b)
        | .error e => (.err e, { w with calls := w.calls + 1 }))
    (hok : ∀ w b, w.now = t → g t = .ok b → w.Grown I (n w b) ∧ Q (v b) (n w b).now)
    (herr : ∀ e, g t = .error e ∨ (e = .io ∧ ¬Quiet fails) → E e t) : Upholds I m t Q E := by
  rintro w rfl
  -- The disk fails the call, or it answers as `g` does.
  by_cases hf : fails w.calls
  · refine sat_of_err (e := .io) (by rw [hm, if_pos hf]) ?_
    rw [hm, if_pos hf]
    refine ⟨.refl I w, herr _ (.inr ⟨rfl, fun hq => ?_⟩)⟩
    rw [hq] at hf
    cases hf
  · cases hg : g w.now with
    | ok b =>
      refine sat_of_ok (a := v b) (by rw [hm, if_neg hf, hg]) ?_
      rw [hm, if_neg hf, hg]
      exact hok w b rfl hg
    | error e =>
      refine sat_of_err (e := e) (by rw [hm, if_neg hf, hg]) ?_
      rw [hm, if_neg hf, hg]
      exact ⟨.refl I w, herr e (.inl hg)⟩

/-- A call that only looks. -/
theorem upholds_ask {g : τ → Except Errno α} {E : Errno → τ → Prop} (hok : ∀ a, g t = .ok a → Q a t)
    (herr : ∀ e, g t = .error e ∨ (e = .io ∧ ¬Quiet fails) → E e t) :
    Upholds I (ask fails g) t Q E :=
  upholds_call (v := id) (n := fun w _ => { w with calls := w.calls + 1 }) (fun _ => rfl)
    (fun w b hw hb => ⟨.refl I w, hw ▸ hok b hb⟩) herr

/-- A call that only looks and whose error is wrapped. -/
theorem upholds_look {g : τ → Except Errno α} {f : Errno → ε}
    (hE : ∀ e, E e t) (hok : ∀ a, g t = .ok a → Q a t) :
    Upholds I (wrapErr f (ask fails g)) t Q E :=
  upholds_wrapErr (upholds_ask hok fun e _ => hE (f e))

/-- A call that changes the state. -/
theorem upholds_change {g : τ → Except Errno τ} {Q : Unit → τ → Prop}
    {E : Errno → τ → Prop} (hok : ∀ t', g t = .ok t' → I t' ∧ Q () t')
    (herr : ∀ e, g t = .error e ∨ (e = .io ∧ ¬Quiet fails) → E e t) :
    Upholds I (change fails g) t Q E :=
  upholds_call (v := fun _ => ()) (n := fun w t' => ⟨t', w.now :: w.past, w.calls + 1⟩)
    (fun _ => rfl) (fun w t' _ ht' => ⟨⟨[t'], rfl, by simpa using (hok t' ht').1⟩, (hok t' ht').2⟩)
    herr

/-- **An invariant** holds in every state that `m` passes and in the last one, and a returned value
    satisfies `Q`. -/
abbrev Maintains (I : τ → Prop) (m : Prog (Disk τ) ε α) (t : τ) (Q : α → τ → Prop) : Prop :=
  Upholds I m t (fun a t' => I t' ∧ Q a t') fun _ t' => I t'

/-- `m` leaves the state as it is. -/
abbrev Stays (I : τ → Prop) (m : Prog (Disk τ) ε α) (t : τ) : Prop :=
  Upholds I m t (fun _ t' => t' = t) fun _ t' => t' = t

theorem Maintains.weaken (h : Maintains I m t Q) (hI : ∀ t', I t' → I' t')
    (hQ : ∀ a t', I t' → Q a t' → Q' a t') : Maintains I' m t Q' :=
  h.mono hI (fun a t' hq => ⟨hI t' hq.1, hQ a t' hq.1 hq.2⟩) fun _ t' he => hI t' he

/-- **Loops over a list.**  `J l t` holds before every iteration, with the elements `l` left. -/
theorem upholds_each {f : β → Prog (Disk τ) ε Unit} (J : List β → τ → Prop)
    (hstep : ∀ b l t, J (b :: l) t → Upholds I (f b) t (fun _ t' => J l t') E) {l : List β}
    (h : J l t) : Upholds I (each f l) t (fun _ t' => J [] t') E := by
  induction l generalizing t with
  | nil => exact upholds_pure h
  | cons b l ih =>
    refine upholds_bind ((hstep b l t h).imp fun _ t' hj => ?_)
    exact ih hj

/-- **Loops over distinct names.**  A turn does what is left to do for its own name and keeps what
    is left and what is done for the others. -/
theorem upholds_eachName {κ γ : Type} {f : κ × γ → Prog (Disk τ) ε Unit} {l : List (κ × γ)}
    {C : τ → Prop} {L P : κ → τ → Prop} (hnodup : (l.map Prod.fst).Nodup)
    (hturn : ∀ e ∈ l, ∀ t, C t → L e.1 t → Upholds I (f e) t (fun _ t' => C t' ∧ P e.1 t' ∧
      ∀ n, n ≠ e.1 → (L n t → L n t') ∧ (P n t → P n t')) E)
    (hC : C t) (hleft : ∀ e ∈ l, L e.1 t) (hdone : ∀ n, n ∉ l.map Prod.fst → P n t) :
    Upholds I (each f l) t (fun _ t' => C t' ∧ ∀ n, P n t') E := by
  induction l generalizing t with
  | nil => exact upholds_pure ⟨hC, fun n => hdone n not_mem_nil⟩
  | cons e l ih =>
    obtain ⟨hnew, hnodup⟩ := nodup_cons.mp hnodup
    refine upholds_bind ((hturn e mem_cons_self t hC (hleft e mem_cons_self)).imp
      fun _ t' ⟨hC', hdone', hothers⟩ => ?_)
    refine ih hnodup (fun e' he' => hturn e' (mem_cons_of_mem e he')) hC' (fun e' he' => ?_)
      fun n hn => ?_
    · refine (hothers e'.1 fun hc => hnew ?_).1 (hleft e' (mem_cons_of_mem e he'))
      exact hc ▸ mem_map_of_mem he'
    · by_cases hne : n = e.1
      · exact hne ▸ hdone'
      · exact (hothers n hne).2 (hdone n fun hc => (mem_cons.mp hc).elim hne hn)

/-- **A deferred call**: it runs after a value and after an error, and neither is lost. -/
theorem upholds_deferred {c : Prog (Disk τ) ε' Unit} (h : Upholds I m t
      (fun a t' => Upholds I c t' (fun _ t'' => Q a t'') fun _ t'' => Q a t'')
      fun e t' => Upholds I c t' (fun _ t'' => E e t'') fun _ t'' => E e t'') :
    Upholds I (deferred m c) t Q E := by
  refine upholds_handle (h.ends (fun a t' hc => ?_) fun e t' hc => ?_)
  · exact upholds_handle (hc.ends (fun _ _ hq => upholds_pure hq) fun _ _ hq => upholds_pure hq)
  · exact upholds_handle (hc.ends (fun _ _ he => upholds_fail he) fun _ _ he => upholds_fail he)

/-- A loop that does not stop at an error. -/
theorem upholds_collect {f : β → Prog (Disk τ) ε Unit} {J : τ → Prop} {E' : ε' → τ → Prop}
    {l : List β} (hstep : ∀ b ∈ l, ∀ t, J t → Upholds I (f b) t (fun _ t' => J t') fun _ t' => J t')
    (err : Option ε) (h : J t) :
    Upholds I (collect f l err : Prog (Disk τ) ε' (Option ε)) t (fun _ t' => J t') E' := by
  induction l generalizing t err with
  | nil => exact upholds_pure h
  | cons b l ih =>
    have hl : ∀ b' ∈ l, ∀ t, J t → Upholds I (f b') t (fun _ t' => J t') fun _ t' => J t' :=
      fun b' hb' => hstep b' (mem_cons_of_mem b hb')
    refine upholds_handle ((hstep b mem_cons_self t h).ends ?_ ?_)
    · exact fun _ t' hj => ih hl err hj
    · exact fun e t' hj => ih hl (some e) hj

theorem upholds_withState {f : τ → Prog (Disk τ) ε α} (h : Upholds I (f t) t Q E) :
    Upholds I (withState f) t Q E := by
  rintro w rfl
  exact sat_of_run (m := f w.now) rfl (h w rfl)

/-! ### Two phases -/

/-- A run of `m` has two phases, and when it returns a value, the last state satisfies `Q`. -/
def Passes (I C I' : τ → Prop) (m : Prog (Disk τ) ε α) (t : τ) (Q : α → τ → Prop) : Prop :=
  ∀ w : Disk τ, w.now = t → Sat m w (fun a w' => w.Phased I C I' w' ∧ Q a w'.now)
    (fun _ w' => w.Phased I C I' w') False

variable {C : τ → Prop}

/-- A run that ends in the first phase. -/
theorem passes_of_upholds (h : Upholds I m t Q E) : Passes I C I' m t Q := fun w hw =>
  (h w hw).mono (fun _ _ ⟨hg, hq⟩ => ⟨.inl hg, hq⟩) fun _ _ ⟨hg, _⟩ => .inl hg

/-- A run that begins with the second phase. -/
theorem passes_switch (hC : C t) (h : Upholds I' m t Q E) : Passes I C I' m t Q := by
  rintro w rfl
  refine (h w rfl).mono (fun _ _ ⟨hg, hq⟩ => ⟨?_, hq⟩) fun _ _ ⟨hg, _⟩ => ?_
  · exact .inr ⟨w, .refl I w, hC, hg⟩
  · exact .inr ⟨w, .refl I w, hC, hg⟩

theorem passes_handle {k : α → Prog (Disk τ) ε' β} {h : ε → Prog (Disk τ) ε' β}
    (hm : Upholds I m t (fun a t' => Passes I C I' (k a) t' R)
      fun e t' => Passes I C I' (h e) t' R) :
    Passes I C I' (handle m k h) t R := by
  intro w hw
  refine sat_handle ((hm w hw).mono (fun a w' ⟨hg, hq⟩ => ?_) fun e w' ⟨hg, he⟩ => ?_)
  · exact (hq w' rfl).mono (fun _ _ ⟨hg', hr⟩ => ⟨hg.phased hg', hr⟩) fun _ _ hg' => hg.phased hg'
  · exact (he w' rfl).mono (fun _ _ ⟨hg', hr⟩ => ⟨hg.phased hg', hr⟩) fun _ _ hg' => hg.phased hg'

theorem passes_bind (h : Upholds I m t (fun a t' => Passes I C I' (f a) t' R) E) :
    Passes I C I' (m >>= f) t R :=
  passes_handle (h := fail) (h.ends (fun _ _ hq => hq) fun _ _ he =>
    passes_of_upholds (upholds_fail he))

/-- What handles the errors of a sequence handles the errors of its parts. -/
theorem handle_bind {ω : Type} {g : β → Prog σ ε' ω} {h : ε → Prog σ ε' ω} (m : Prog σ ε α)
    (f : α → Prog σ ε β) : handle (m >>= f) g h = handle m (fun a => handle (f a) g h) h := by
  funext s
  show handle (bind m f) g h s = _
  unfold handle bind
  generalize m s = r
  obtain ⟨r, s'⟩ := r
  cases r <;> rfl

/-- The phases of a whole run. -/
theorem Passes.phased (h : Passes I C I' m t Q) :
    (Disk.start t).Phased I C I' (m (Disk.start t)).2 :=
  ((h (Disk.start t) rfl).mono (fun _ _ hq => hq.1) fun _ _ he => he).state

theorem Passes.of_ok (h : Passes I C I' m t Q) {a : α} (hrun : (m (Disk.start t)).1 = .ok a) :
    Q a (m (Disk.start t)).2.now :=
  ((h (Disk.start t) rfl).of_ok hrun).2

end Prog

end Booty.Lib
