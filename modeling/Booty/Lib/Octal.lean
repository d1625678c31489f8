import Mathlib

namespace Booty.Lib

open List Char

/-!
# Octal escapes

The kernel writes some bytes of a name as `\ooo` in its text files.

* `octalEscape` — what it writes; `octalUnescape` — the way back.
* `unescape_escape` — the way back is right if the backslash is among the escaped bytes.
-/

/-- The digit of weight `w` of a byte. -/
def octalDigit (c : Char) (w : Nat) : Char := Char.ofNat (48 + c.toNat / w % 8)

/-- Each byte that `special` names is written with three octal digits. -/
def octalEscape (special : Char → Bool) (cs : List Char) : List Char :=
  cs.flatMap fun c =>
    if special c then ['\\', octalDigit c 64, octalDigit c 8, octalDigit c 1] else [c]

/-- A byte in three octal digits. -/
def octalByte (a b c : Char) : Option Char :=
  if ([a, b, c].all fun d => decide ('0'.toNat ≤ d.toNat) && decide (d.toNat ≤ '7'.toNat)) then
    let n := 64 * (a.toNat - 48) + 8 * (b.toNat - 48) + (c.toNat - 48)
    if n < 256 then some (Char.ofNat n) else none
  else none

/-- The escapes of a text, decoded; a backslash that starts none stays. -/
def octalUnescape : List Char → List Char
  | [] => []
  | '\\' :: a :: b :: c :: rest =>
    match octalByte a b c with
    | some x => x :: octalUnescape rest
    | none => '\\' :: octalUnescape (a :: b :: c :: rest)
  | x :: rest => x :: octalUnescape rest

theorem octalByte_digits {c : Char} (h : c.toNat < 256) :
    octalByte (octalDigit c 64) (octalDigit c 8) (octalDigit c 1) = some c := by
  have hdigit : ∀ w, (octalDigit c w).toNat = 48 + c.toNat / w % 8 := by
    intro w
    have hvalid : (48 + c.toNat / w % 8).isValidChar := .inl (by omega)
    unfold octalDigit ofNat
    rw [dif_pos hvalid]
    rfl
  have hsum : 64 * (c.toNat / 64 % 8) + 8 * (c.toNat / 8 % 8) + c.toNat / 1 % 8 = c.toNat := by
    omega
  have hzero : '0'.toNat = 48 := rfl
  have hseven : '7'.toNat = 55 := rfl
  simp only [octalByte, all_cons, hdigit, Nat.add_sub_cancel_left, hsum, h]
  rw [if_pos (by simp; omega)]
  simp

variable {special : Char → Bool}

/-- **The way back.** -/
theorem unescape_escape (hback : special '\\' = true)
    (hbytes : ∀ c, special c = true → c.toNat < 256) (cs : List Char) :
    octalUnescape (octalEscape special cs) = cs := by
  induction cs with
  | nil => rfl
  | cons c cs ih =>
    rw [octalEscape, flatMap_cons]
    change octalUnescape (_ ++ octalEscape special cs) = _
    split
    next hspecial =>
      simp only [cons_append, nil_append, octalUnescape, octalByte_digits (hbytes c hspecial), ih]
    next hplain =>
      have hne : c ≠ '\\' := by
        rintro rfl
        exact hplain hback
      rw [singleton_append, octalUnescape, ih]
      intro a b d rest heq
      exact absurd heq hne

theorem not_mem_octalEscape {c : Char} (hspecial : special c = true)
    (hback : c ≠ '\\') (hdigit : c.toNat < 48 ∨ 55 < c.toNat) (cs : List Char) :
    c ∉ octalEscape special cs := by
  have hne : ∀ x w, c ≠ octalDigit x w := by
    intro x w hc
    have hval : (octalDigit x w).toNat = 48 + x.toNat / w % 8 := by
      unfold octalDigit ofNat
      rw [dif_pos (.inl (by omega))]
      rfl
    rw [← hc] at hval
    omega
  rw [octalEscape, mem_flatMap]
  rintro ⟨x, -, hx⟩
  split at hx
  · grind
  next hplain => grind

/-- A start without escaped characters is kept. -/
theorem isPrefixOf_octalEscape {start : List Char}
    (h : ∀ c ∈ start, special c = false ∧ c ≠ '\\') (cs : List Char) :
    start.isPrefixOf (octalEscape special cs) = start.isPrefixOf cs := by
  induction start generalizing cs with
  | nil => simp
  | cons x start ih =>
    cases cs with
    | nil => rfl
    | cons c cs =>
      rw [octalEscape, flatMap_cons]
      change (x :: start).isPrefixOf (_ ++ octalEscape special cs) = _
      split
      next hspecial => grind
      next hplain =>
        simp_all [isPrefixOf_cons_cons]

end Booty.Lib
