import Booty.Lib.Bytes

namespace Booty.Lib

/-!
# Outcomes of Go code: a value, an error or a run-time fault

`Outcome ε α` is what a Go function returning `(α, error)` can do: return a value, return an
error, or fault.  A fault is an index or slice expression out of range, which panics in Go,
or an `int64` operation whose exact result does not fit, which Go would wrap silently; the
checked operations below make both visible, so "never indexes outside a buffer and never
overflows" is the statement that the outcome is no fault.

* `Meets x P` — the outcome `x` is no fault, and a value it returns satisfies `P`;
* `Meets.bind` — the rule for sequences, from which a specification of a function is assembled
  along its code;
* one lemma for each checked slice and integer operation, in the case where it succeeds.
-/

/-- A run-time fault; `outOfFuel` is a loop that ran longer than the bound given for it. -/
inductive Fault
  | outOfRange
  | overflow
  | outOfFuel
  deriving DecidableEq, Repr

/-- A value, an error, or a fault. -/
inductive Outcome (ε α : Type)
  | ok (a : α)
  | err (e : ε)
  | fault (f : Fault)
  deriving DecidableEq, Repr

namespace Outcome

variable {ε ε' α β : Type} {x : Outcome ε α} {f : α → Outcome ε β}

/-- Go on with the value, or stop. -/
def bind (x : Outcome ε α) (f : α → Outcome ε β) : Outcome ε β :=
  match x with
  | .ok a => f a
  | .err e => .err e
  | .fault p => .fault p

instance : Monad (Outcome ε) where
  pure := .ok
  bind := Outcome.bind

/-- Wrap the error of an outcome (`fmt.Errorf` with `%w`). -/
def mapErr (g : ε → ε') : Outcome ε α → Outcome ε' α
  | .ok a => .ok a
  | .err e => .err (g e)
  | .fault p => .fault p

@[simp] theorem bind_ok (a : α) (f : α → Outcome ε β) : (ok a >>= f) = f a := rfl
@[simp] theorem bind_err (e : ε) (f : α → Outcome ε β) : (err e >>= f) = .err e := rfl
@[simp] theorem bind_fault (p : Fault) (f : α → Outcome ε β) : (fault p >>= f) = .fault p := rfl

/-- A sequence succeeds when both parts do. -/
theorem bind_eq_ok {b : β} : (x >>= f) = .ok b ↔ ∃ a, x = .ok a ∧ f a = .ok b := by
  cases x <;> simp

/-- The outcome is no fault. -/
def NoFault (x : Outcome ε α) : Prop := ∀ p, x ≠ .fault p

/-- The outcome is no fault, and a returned value satisfies `P`. -/
def Meets (x : Outcome ε α) (P : α → Prop) : Prop :=
  match x with
  | .ok a => P a
  | .err _ => True
  | .fault _ => False

variable {P : α → Prop} {Q : β → Prop}

variable {a : α} {e : ε}

@[simp] theorem meets_ok : (ok a : Outcome ε α).Meets P ↔ P a := Iff.rfl
@[simp] theorem meets_err : (err e : Outcome ε α).Meets P := trivial

/-- **Sequencing.**  What the first part guarantees is what the second part may assume. -/
theorem Meets.bind (hx : x.Meets P) (hf : ∀ a, P a → (f a).Meets Q) : (x >>= f).Meets Q := by
  cases x with
  | ok a => exact hf a hx
  | err e => exact meets_err
  | fault p => exact hx.elim

/-- **Consequence.** -/
theorem Meets.mono {P' : α → Prop} (hx : x.Meets P) (h : ∀ a, P a → P' a) : x.Meets P' := by
  cases x with
  | ok a => exact h a hx
  | err e => exact meets_err
  | fault p => exact hx.elim

/-- Wrapping the error changes no value. -/
theorem Meets.mapErr {g : ε → ε'} (hx : x.Meets P) : (x.mapErr g).Meets P := by
  cases x with
  | ok a => exact hx
  | err e => exact meets_err
  | fault p => exact hx.elim

/-- A branch that only returns an error guarantees anything. -/
theorem Meets.guard {c : Prop} [Decidable c] (hx : ¬c → x.Meets P) :
    (if c then .err e else x).Meets P := by aesop

/-- A returned error satisfies `E`. -/
def Errs (x : Outcome ε α) (E : ε → Prop) : Prop :=
  match x with
  | .ok _ => True
  | .err e => E e
  | .fault _ => True

variable {E : ε → Prop}

theorem errs_ok : (.ok a : Outcome ε α).Errs E := trivial

theorem errs_err (h : E e) : (.err e : Outcome ε α).Errs E := h

/-- One computation after another. -/
theorem Errs.bind (hx : x.Errs E) (hf : ∀ a, (f a).Errs E) : (x >>= f).Errs E := by
  cases x with
  | ok a => exact hf a
  | err e => exact hx
  | fault p => trivial

theorem Errs.ite {c : Prop} [Decidable c] {y : Outcome ε α} (hx : x.Errs E) (hy : y.Errs E) :
    (if c then x else y).Errs E := by grind

theorem Errs.of_eq_err (hx : x.Errs E) (h : x = .err e) : E e := by
  subst h; exact hx

theorem Meets.of_eq_ok (hx : x.Meets P) (h : x = .ok a) : P a := by
  subst h; exact hx

theorem Meets.noFault (hx : x.Meets P) : x.NoFault := by
  intro p h
  subst h; exact hx

end Outcome

open Outcome

variable {ε : Type}

/-! ### Slices -/

variable (b : Bytes) (i j : Nat)

/-- `b[i:j]`. -/
def slice : Outcome ε Bytes :=
  if i ≤ j ∧ j ≤ b.length then .ok ((b.drop i).take (j - i)) else .fault .outOfRange

/-- `b[i:]`. -/
def sliceFrom (i : Nat) : Outcome ε Bytes :=
  if i ≤ b.length then .ok (b.drop i) else .fault .outOfRange

/-- `clear(b[i:j])`. -/
def clearSlice : Outcome ε Bytes :=
  if i ≤ j ∧ j ≤ b.length then .ok (b.take i ++ List.replicate (j - i) 0 ++ b.drop j)
  else .fault .outOfRange

/-- `binary.BigEndian.Uint64(b)`. -/
def uint64BE : Outcome ε Nat :=
  if 8 ≤ b.length then .ok (bigEndian (b.take 8)) else .fault .outOfRange

/-- The big-endian integer in `b[i:j]`. -/
def uintBE : Outcome ε Nat := slice b i j >>= fun s => .ok (bigEndian s)

/-- The little-endian integer in `b[i:j]`. -/
def uintLE : Outcome ε Nat :=
  slice b i j >>= fun s => .ok (littleEndian s)

/-- `b[i]`. -/
def index (i : Nat) : Outcome ε UInt8 :=
  if i < b.length then .ok (byteAt b i) else .fault .outOfRange

/-- `binary.BigEndian.Uint64(b[i:])`. -/
def uint64At (i : Nat) : Outcome ε Nat := sliceFrom b i >>= uint64BE

variable {b : Bytes} {i j : Nat}

section

variable (hij : i ≤ j) (hj : j ≤ b.length)
include hij hj

/-- A slice within its bounds. -/
theorem slice_of_le : (slice b i j : Outcome ε Bytes) = .ok (window b i (j - i)) := by
  rw [slice, if_pos ⟨hij, hj⟩, window_eq_slice (by omega)]

/-- A number within its bounds. -/
theorem uintLE_of_le :
    (uintLE b i j : Outcome ε Nat) = .ok (littleEndian (window b i (j - i))) := by
  rw [uintLE, slice_of_le hij hj, bind_ok]

/-- A slice within its bounds. -/
theorem meets_slice : (slice b i j : Outcome ε Bytes).Meets (· = window b i (j - i)) := by
  rw [slice_of_le hij hj, meets_ok]

/-- A big-endian number within its bounds. -/
theorem meets_uintBE : (uintBE b i j : Outcome ε Nat).Meets (· = bigEndian (window b i (j - i))) :=
  (meets_slice hij hj).bind (fun _ hs => congrArg bigEndian hs)

/-- A little-endian number within its bounds. -/
theorem meets_uintLE :
    (uintLE b i j : Outcome ε Nat).Meets (· = littleEndian (window b i (j - i))) := by
  rw [uintLE_of_le hij hj, meets_ok]

end

theorem meets_uint64At (h : i + 8 ≤ b.length) :
    (uint64At b i : Outcome ε Nat).Meets (· = bigEndian (window b i 8)) := by
  rw [uint64At, sliceFrom, if_pos (by omega), bind_ok, uint64BE,
    if_pos (by rw [List.length_drop]; omega), meets_ok, window_eq_slice h]

/-- A byte within its bounds. -/
theorem meets_index (h : i < b.length) : (index b i : Outcome ε UInt8).Meets (· = byteAt b i) := by
  rw [index, if_pos h]; rfl

/-- A slice is set to zero. -/
theorem meets_clearSlice (hij : i ≤ j) (hj : j ≤ b.length) :
    (clearSlice b i j : Outcome ε Bytes).Meets (fun c => c.length = b.length ∧
      ∀ k, byteAt c k = if i ≤ k ∧ k < j then 0 else byteAt b k) := by
  rw [clearSlice, if_pos ⟨hij, hj⟩]
  refine ⟨?_, fun k => ?_⟩
  · grind
  · rw [byteAt_append, byteAt_append, byteAt_take, byteAt_replicate_zero, byteAt_drop]
    grind

/-- A slice expression faults, but returns no error. -/
theorem errs_slice {E : ε → Prop} : (slice b i j).Errs E := Errs.ite trivial trivial

theorem errs_uintLE {E : ε → Prop} : (uintLE b i j).Errs E := errs_slice.bind (fun _ => trivial)

/-! ### Checked `int64` arithmetic on nonnegative values -/

/-- `a * b`, a fault when it does not fit in `int64`. -/
def mul64 (a b : Nat) : Outcome ε Nat := if a * b < 2 ^ 63 then .ok (a * b) else .fault .overflow

/-- `a + b`, a fault when it does not fit in `int64`. -/
def add64 (a b : Nat) : Outcome ε Nat := if a + b < 2 ^ 63 then .ok (a + b) else .fault .overflow

/-- `make([]byte, n)`: the length, a fault when it is negative. -/
def makeLen (n : Int) : Outcome ε Nat := if 0 ≤ n then .ok n.toNat else .fault .outOfRange

/-- A product without overflow. -/
theorem meets_mul64 {a b : Nat} (h : a * b < 2 ^ 63) :
    (mul64 a b : Outcome ε Nat).Meets (· = a * b) := by
  rw [mul64, if_pos h]; rfl

/-- A sum without overflow. -/
theorem meets_add64 {a b : Nat} (h : a + b < 2 ^ 63) :
    (add64 a b : Outcome ε Nat).Meets (· = a + b) := by
  rw [add64, if_pos h]; rfl

end Booty.Lib
