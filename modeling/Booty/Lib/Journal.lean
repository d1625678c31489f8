import Mathlib

namespace Booty.Lib

open List

/-!
# Programs with a journal

A `Logged` program appends the events of its run to a journal and ends with a value or an error; an
error does not undo events.

* `Logged.Meets m t I Q` — from the journal `t`, an error of `m` leaves a journal in `I`, and a
  value comes with `Q`.
* `Meets.bind`, `Meets.attempt`, `Meets.mapError`, `meets_ask`, `meets_forM`, `meets_foldlM`,
  `meets_foldlM_done`, `meets_mapM` — the rules.
* `Keeps I m` — `m` keeps an invariant of the journal.
* `Grows`, `mem_mapM` — the journal only grows, so what one turn of a loop adds is there at the end.
-/

/-- Two extensions of a journal, one after the other. -/
theorem extends_trans {E : Type} {t t' t'' : List E} {P P' Q : E → Prop}
    (h : ∃ new, t' = t ++ new ∧ ∀ e ∈ new, P e) (h' : ∃ new, t'' = t' ++ new ∧ ∀ e ∈ new, P' e)
    (hP : ∀ e, P e → Q e) (hP' : ∀ e, P' e → Q e) : ∃ new, t'' = t ++ new ∧ ∀ e ∈ new, Q e := by
  obtain ⟨new, rfl, hnew⟩ := h
  obtain ⟨new', rfl, hnew'⟩ := h'
  refine ⟨new ++ new', by simp, fun e he => ?_⟩
  rcases mem_append.mp he with he | he
  · exact hP e (hnew e he)
  · exact hP' e (hnew' e he)

/-- A program over events `E` with errors `ε`. -/
def Logged (E ε α : Type) : Type := List E → Except ε α × List E

namespace Logged

variable {E ε α β : Type}

/-- A result without an event. -/
def pure (a : α) : Logged E ε α := fun t => (.ok a, t)

/-- One computation after another. -/
def bind (m : Logged E ε α) (f : α → Logged E ε β) : Logged E ε β := fun t =>
  match m t with
  | (.ok a, t') => f a t'
  | (.error e, t') => (.error e, t')

instance : Monad (Logged E ε) where
  pure := pure
  bind := bind

instance : LawfulMonad (Logged E ε) := by
  refine LawfulMonad.mk' _ ?_ (fun _ _ => rfl) ?_
  · intro α m
    funext t
    show Logged.bind m Logged.pure t = m t
    cases hm : m t with
    | mk r t' => cases r <;> simp only [Logged.bind, Logged.pure, hm]
  · intro α β γ m f g
    funext t
    show Logged.bind (Logged.bind m f) g t = Logged.bind m (fun a => Logged.bind (f a) g) t
    cases hm : m t with
    | mk r t' => cases r <;> simp only [Logged.bind, hm]

/-- End with an error. -/
def fail (e : ε) : Logged E ε α := fun t => (.error e, t)

/-- The journal so far. -/
def journal : Logged E ε (List E) := fun t => (.ok t, t)

/-- Append an event. -/
def record (e : E) : Logged E ε Unit := fun t => (.ok (), t ++ [e])

/-- Ask for an answer, which may depend on the journal, and append what was asked. -/
def ask (answer : List E → α) (event : α → E) : Logged E ε α := fun t =>
  (.ok (answer t), t ++ [event (answer t)])

/-- Run a program and go on with its result. -/
def attempt {ε' : Type} (m : Logged E ε' α) : Logged E ε (Except ε' α) := fun t =>
  (.ok (m t).1, (m t).2)

/-- Change the error of a program. -/
def mapError {ε' : Type} (g : ε → ε') (m : Logged E ε α) : Logged E ε' α := fun t =>
  ((m t).1.mapError g, (m t).2)

/-- An error leaves the journal in `I`, a value comes with `Q`. -/
structure Meets (m : Logged E ε α) (t : List E) (I : List E → Prop) (Q : α → List E → Prop) :
    Prop where
  onError : ∀ e t', m t = (.error e, t') → I t'
  onValue : ∀ a t', m t = (.ok a, t') → Q a t'

variable {m : Logged E ε α} {f : α → Logged E ε β} {t : List E} {I I' : List E → Prop}
  {Q Q' : α → List E → Prop} {R : β → List E → Prop}

/-- A computation that fails. -/
theorem Meets.of_error {e : ε} {t' : List E} (hm : m t = (.error e, t')) (hI : I t') :
    Meets m t I Q where
  onError e' u h := by
    rw [hm] at h
    cases h
    exact hI
  onValue b u h := by
    rw [hm] at h
    cases h

variable {a : α}

/-- A computation that returns. -/
theorem Meets.of_value {t' : List E} (hm : m t = (.ok a, t')) (hQ : Q a t') : Meets m t I Q where
  onError e u h := by
    rw [hm] at h
    cases h
  onValue b u h := by
    rw [hm] at h
    cases h
    exact hQ

/-- Rule of a result. -/
theorem meets_pure (hQ : Q a t) : Meets (pure a : Logged E ε α) t I Q := .of_value rfl hQ

/-- Rule of an error. -/
theorem meets_fail {e : ε} (hI : I t) : Meets (fail e : Logged E ε α) t I Q := .of_error rfl hI

/-- Rule of a question. -/
theorem meets_ask {answer : List E → α} {event : α → E}
    (hQ : Q (answer t) (t ++ [event (answer t)])) :
    Meets (ask answer event : Logged E ε α) t I Q :=
  .of_value rfl hQ

/-- Rule of consequence. -/
theorem Meets.mono (h : Meets m t I Q) (hI : ∀ t', I t' → I' t') (hQ : ∀ a t', Q a t' → Q' a t') :
    Meets m t I' Q' :=
  ⟨fun e t' hm => hI t' (h.onError e t' hm), fun a t' hm => hQ a t' (h.onValue a t' hm)⟩

/-- What holds at both kinds of ends holds of the journal. -/
theorem Meets.holds (h : Meets m t I fun _ => I) : I (m t).2 := by
  cases hm : m t with
  | mk r t' =>
    cases r with
    | error e => exact h.onError e t' hm
    | ok a => exact h.onValue a t' hm

/-- **Sequence.** -/
theorem Meets.bind (h : Meets m t I Q) (hf : ∀ a t', Q a t' → Meets (f a) t' I R) :
    Meets (m >>= f) t I R := by
  cases hm : m t with
  | mk r t' =>
    cases r with
    | error e =>
      have hbind : (m >>= f) t = (.error e, t') := by
        show Logged.bind m f t = _
        simp only [Logged.bind, hm]
      exact .of_error hbind (h.onError e t' hm)
    | ok a =>
      have hbind : (m >>= f) t = f a t' := by
        show Logged.bind m f t = _
        simp only [Logged.bind, hm]
      have hrest := hf a t' (h.onValue a t' hm)
      exact ⟨fun e t'' h' => hrest.onError e t'' (hbind ▸ h'),
        fun b t'' h' => hrest.onValue b t'' (hbind ▸ h')⟩

/-- Read the journal, then go on. -/
theorem meets_journal_bind {f : List E → Logged E ε β} (h : Meets (f t) t I R) :
    Meets (journal >>= f) t I R :=
  ⟨h.onError, h.onValue⟩

/-- Record an event, then go on. -/
theorem meets_record_bind {e : E} {f : Unit → Logged E ε β} (h : Meets (f ()) (t ++ [e]) I R) :
    Meets (record e >>= f) t I R :=
  ⟨h.onError, h.onValue⟩

variable {ε' : Type}

/-- Rule of an error that is handled. -/
theorem Meets.attempt (h : Meets m t I fun _ => I) :
    Meets (Logged.attempt m : Logged E ε' _) t I fun _ => I :=
  .of_value rfl h.holds

/-- Rule of an error that is wrapped. -/
theorem Meets.mapError {g : ε → ε'} (h : Meets m t I Q) : Meets (Logged.mapError g m) t I Q := by
  cases hm : m t with
  | mk r t' =>
    have hmap : Logged.mapError g m t = (r.mapError g, t') := by
      simp only [Logged.mapError, hm]
    cases r with
    | error e => exact .of_error hmap (h.onError e t' hm)
    | ok a => exact .of_value hmap (h.onValue a t' hm)

variable {l : List β}

/-- **Loop.** An invariant that every turn keeps holds at the end. -/
theorem meets_forM {g : β → Logged E ε PUnit}
    (hg : ∀ b ∈ l, ∀ t', I t' → Meets (g b) t' I fun _ => I) (ht : I t) :
    Meets (l.forM g) t I fun _ => I := by
  induction l generalizing t with
  | nil => exact meets_pure ht
  | cons b l ih =>
    refine (hg b mem_cons_self t ht).bind fun _ t' ht' => ?_
    exact ih (fun b' hb' => hg b' (mem_cons_of_mem _ hb')) ht'

variable {g : α → β → Logged E ε α}

/-- **Loop with a state and a past.** What holds of the turns done so far, the state and the journal
    holds at the end of all turns. -/
theorem meets_foldlM_done {S : List β → α → List E → Prop}
    (hg : ∀ done b rest, l = done ++ b :: rest → ∀ a' t', S done a' t' →
      Meets (g a' b) t' I (S (done ++ [b]))) (ha : S [] a t) : Meets (l.foldlM g a) t I (S l) := by
  suffices hrest : ∀ rest done a t, l = done ++ rest → S done a t →
      Meets (rest.foldlM g a) t I (S l) from hrest l [] a t rfl ha
  intro rest
  induction rest with
  | nil =>
    intro done a t hl ha
    rw [append_nil] at hl
    exact meets_pure (hl ▸ ha)
  | cons b rest ih =>
    intro done a t hl ha
    exact (hg done b rest hl a t ha).bind fun a' t' ha' => ih (done ++ [b]) a' t' (by simp [hl]) ha'

/-- **Loop with a state.** An invariant of the state and the journal that every turn keeps holds at
    the end. -/
theorem meets_foldlM (hg : ∀ a' t', Q a' t' → ∀ b ∈ l, Meets (g a' b) t' I Q) (ha : Q a t) :
    Meets (l.foldlM g a) t I Q :=
  meets_foldlM_done (S := fun _ => Q) (fun done b rest hl a' t' h => hg a' t' h b (by simp [hl])) ha

/-- **Loop with results.** An invariant that every turn keeps holds at the end, and each result
    comes from an element. -/
theorem meets_mapM {g : β → Logged E ε α} {P : β → α → Prop}
    (hg : ∀ b ∈ l, ∀ t', I t' → Meets (g b) t' I fun a t'' => I t'' ∧ P b a) (ht : I t) :
    Meets (l.mapM g) t I fun as t' => I t' ∧ ∀ a ∈ as, ∃ b ∈ l, P b a := by
  induction l generalizing t with
  | nil =>
    exact meets_pure ⟨ht, fun a ha => by cases ha⟩
  | cons b l ih =>
    rw [mapM_cons]
    refine (hg b mem_cons_self t ht).bind fun a t' ha => ?_
    refine (ih (fun b' hb' => hg b' (mem_cons_of_mem _ hb')) ha.1).bind fun as t'' has => ?_
    refine meets_pure ⟨has.1, fun a' ha' => ?_⟩
    rcases mem_cons.mp ha' with rfl | ha'
    · exact ⟨b, mem_cons_self, ha.2⟩
    · grind

/-! ### Programs that keep an invariant -/

/-- Every run from a journal in `I` ends in one. -/
def Keeps (I : List E → Prop) (m : Logged E ε α) : Prop := ∀ t, I t → Meets m t I fun _ => I

/-- A result keeps everything. -/
theorem keeps_pure : Keeps I (pure a : Logged E ε α) := fun _ h => meets_pure h

/-- So does an error. -/
theorem keeps_fail {e : ε} : Keeps I (fail e : Logged E ε α) := fun _ h => meets_fail h

/-- One computation after another. -/
theorem Keeps.bind (hm : Keeps I m) (hf : ∀ a, Keeps I (f a)) : Keeps I (m >>= f) :=
  fun t h => (hm t h).bind fun a t' h' => hf a t' h'

theorem Keeps.attempt (hm : Keeps I m) :
    Keeps I (Logged.attempt m : Logged E ε' _) := fun t h => (hm t h).attempt

theorem Keeps.mapError {g : ε → ε'} (hm : Keeps I m) : Keeps I (Logged.mapError g m) :=
  fun t h => (hm t h).mapError

theorem keeps_journal_bind {f : List E → Logged E ε β} (hf : ∀ t, Keeps I (f t)) :
    Keeps I (journal >>= f) := fun t h => meets_journal_bind (hf t t h)

/-- A loop. -/
theorem keeps_forM {g : β → Logged E ε PUnit} (hg : ∀ b ∈ l, Keeps I (g b)) :
    Keeps I (l.forM g) := fun _ h => meets_forM (fun b hb => hg b hb) h

/-- Every run from a journal in `I` ends in one, and its value comes with `P`. -/
def Gives (I : List E → Prop) (m : Logged E ε α) (P : α → Prop) : Prop :=
  ∀ t, I t → Meets m t I fun a t' => I t' ∧ P a

variable {P P' : α → Prop}

/-- A result. -/
theorem gives_pure (hP : P a) : Gives I (pure a : Logged E ε α) P := fun _ h => meets_pure ⟨h, hP⟩

/-- A weaker result. -/
theorem Gives.mono (h : Gives I m P) (hP : ∀ a, P a → P' a) : Gives I m P' :=
  fun t ht => (h t ht).mono (fun _ => id) fun a _ ha => ⟨ha.1, hP a ha.2⟩

theorem Gives.keeps (h : Gives I m P) : Keeps I m :=
  fun t ht => (h t ht).mono (fun _ => id) fun _ _ ha => ha.1

theorem Keeps.gives (h : Keeps I m) (hP : ∀ a, P a) : Gives I m P :=
  fun t ht => (h t ht).mono (fun _ => id) fun a _ ha => ⟨ha, hP a⟩

/-- One computation after another. -/
theorem Gives.bind {R : β → Prop} (hm : Gives I m P) (hf : ∀ a, P a → Gives I (f a) R) :
    Gives I (m >>= f) R :=
  fun t ht => (hm t ht).bind fun a t' ha => hf a ha.2 t' ha.1

/-- A loop with a state. -/
theorem gives_foldlM {g : α → β → Logged E ε α}
    (hg : ∀ a', P a' → ∀ b ∈ l, Gives I (g a' b) P) (ha : P a) : Gives I (l.foldlM g a) P :=
  fun _ ht => meets_foldlM (fun a' t' h b hb => hg a' h.2 b hb t' h.1) ⟨ht, ha⟩

/-- A loop with results. -/
theorem gives_mapM {g : β → Logged E ε α} {P : β → α → Prop} (hg : ∀ b ∈ l, Gives I (g b) (P b)) :
    Gives I (l.mapM g) fun as => ∀ a ∈ as, ∃ b ∈ l, P b a :=
  fun _ ht => meets_mapM hg ht

/-! ### Programs keep what is in the journal -/

/-- A program only adds to the journal. -/
def Grows (m : Logged E ε α) : Prop := ∀ t, t <+: (m t).2

theorem grows_pure (a : α) : Grows (Pure.pure a : Logged E ε α) := fun _ => prefix_rfl

/-- A question adds its event. -/
theorem grows_ask (answer : List E → α) (event : α → E) :
    Grows (ask answer event : Logged E ε α) := fun t => prefix_append t _

/-- The journal of the first part of a sequence stays. -/
theorem stays_bind (hf : ∀ a, Grows (f a)) (t : List E) : (m t).2 <+: ((m >>= f) t).2 := by
  show (m t).2 <+: (Logged.bind m f t).2
  cases h : m t with
  | mk r t' =>
    cases r with
    | error e => simp only [Logged.bind, h, prefix_rfl]
    | ok a =>
      simp only [Logged.bind, h]
      exact hf a t'

/-- One computation after another. -/
theorem Grows.bind (hm : Grows m) (hf : ∀ a, Grows (f a)) : Grows (m >>= f) := fun t =>
  (hm t).trans (stays_bind hf t)

theorem grows_mapM {g : β → Logged E ε α} (hg : ∀ b, Grows (g b)) : Grows (l.mapM g) := by
  induction l with
  | nil =>
    exact grows_pure []
  | cons b l ih =>
    rw [mapM_cons]
    exact (hg b).bind fun a => ih.bind fun as => grows_pure _

/-! ### Programs that always end -/

/-- The value that a program ends with. -/
def value (m : Logged E Empty α) (t : List E) : α :=
  match (m t).1 with
  | .ok a => a
  | .error e => nomatch e

/-- A computation that cannot fail returns. -/
theorem Meets.value {m : Logged E Empty α} (h : Meets m t I Q) : Q (m.value t) (m t).2 := by
  unfold Logged.value
  cases hm : m t with
  | mk r t' =>
    cases r with
    | error e => cases e
    | ok a => exact h.onValue a t' hm

theorem bind_total (m : Logged E Empty α) (f : α → Logged E Empty β) (t : List E) :
    ∃ a, (m >>= f) t = f a (m t).2 := by
  show ∃ a, Logged.bind m f t = f a (m t).2
  cases h : m t with
  | mk r t' =>
    cases r with
    | error e => cases e
    | ok a => exact ⟨a, by rw [Logged.bind, h]⟩

/-- What a turn of a loop puts into the journal is there at the end. -/
theorem mem_mapM {g : β → Logged E Empty α} (hg : ∀ b, Grows (g b)) {b : β}
    (hb : b ∈ l) {P : E → Prop} (he : ∀ t, ∃ e ∈ (g b t).2, P e) (t : List E) :
    ∃ e ∈ (l.mapM g t).2, P e := by
  induction l generalizing t with
  | nil => cases hb
  | cons c l ih =>
    rw [mapM_cons]
    obtain ⟨a, ha⟩ := bind_total (g c) (fun a => l.mapM g >>= fun as => Pure.pure (a :: as)) t
    rw [ha]
    obtain ⟨as, has⟩ :=
      bind_total (l.mapM g) (fun as => (Pure.pure (a :: as) : Logged E Empty _)) (g c t).2
    rw [has]
    cases hb with
    | head =>
      obtain ⟨e, hmem, hP⟩ := he t
      exact ⟨e, (grows_mapM hg _).subset hmem, hP⟩
    | tail _ hb => exact ih hb _

end Logged

end Booty.Lib
