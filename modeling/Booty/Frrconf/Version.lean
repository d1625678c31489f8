import Booty.Lib.Bytes

namespace Booty.Frrconf

open Lib List Option

/-!
# The order of FRR versions

`frrVersionCmp` of main.go compares two versions as FRR's `frr_version_cmp` does.  A version is a
row of pieces, which are coded as numbers with a mark for the end.

* `frrVersionCmp_code` — the function is the lexicographic order of the codes.
* `frrVersionCmp_preorder` — the order laws, which versions are equal, and where `~` stands.
-/

/-! ### The code -/

/-- A decimal digit. -/
def isDigitByte (c : UInt8) : Bool := 48 ≤ c.toNat && c.toNat ≤ 57

/-- `isDigit` of `frrVersionCmp`. -/
def isDigit (s : Bytes) : Bool := s.head?.any isDigitByte

/-- The number that decimal digits write. -/
def decimal (ds : Bytes) : Nat := ds.foldl (fun n c => 10 * n + (c.toNat - 48)) 0

/-- `leadingNumber`; a number that `strconv.ParseUint` refuses counts as the largest one. -/
def leadingNumber (s : Bytes) : Nat × Bytes :=
  let ds := s.takeWhile isDigitByte
  (if ds ≠ [] ∧ decimal ds < 2 ^ 64 then decimal ds else 2 ^ 64 - 1, s.dropWhile isDigitByte)

/-- An upper-case ASCII letter. -/
def isUpper (c : UInt8) : Bool := 65 ≤ c.toNat && c.toNat ≤ 90

/-- `versionValue` of a character. -/
def charValue (c : UInt8) : Nat :=
  if 128 ≤ c.toNat then 2
  else if c = 126 then 0
  else if (97 ≤ c.toNat && c.toNat ≤ 122) || isUpper c then 0x100 + (c ||| 0x20).toNat
  else 0x200 + c.toNat

/-- `versionValue`. -/
def versionValue : Bytes → Nat
  | [] => 1
  | c :: _ => charValue c

theorem dropWhile_shorter {s : Bytes} (h : isDigit s = true) :
    (s.dropWhile isDigitByte).length < s.length := by
  cases s with
  | nil => cases h
  | cons c s =>
    rw [dropWhile_cons_of_pos (by simpa [isDigit] using h)]
    exact Nat.lt_succ_of_le (dropWhile_suffix _).length_le

/-- `frrVersionCmp`: the results -1, 0 and 1 of `cmp.Compare` are `lt`, `eq` and `gt`, and `none` is
    the slice of an empty string. -/
def frrVersionCmp (a b : Bytes) : Option Ordering :=
  if a = [] ∧ b = [] then some .eq
  else if isDigit a ∧ isDigit b then
    match compare (leadingNumber a).1 (leadingNumber b).1 with
    | .eq => frrVersionCmp (leadingNumber a).2 (leadingNumber b).2
    | c => some c
  else
    match compare (versionValue a) (versionValue b) with
    | .eq =>
      match a, b with
      | _ :: a, _ :: b => frrVersionCmp a b
      | _, _ => none
    | c => some c
termination_by a.length + b.length
decreasing_by
  · next h => exact Nat.add_lt_add (dropWhile_shorter h.1) (dropWhile_shorter h.2)
  · simp; omega

/-! ### Pieces -/

/-- A piece of a version: a run of digits as a number, or another character. -/
inductive Piece where
  | number (n : Nat)
  | other (c : UInt8)

/-- One byte for the two cases of a letter, and one for all that is not ASCII. -/
def fold (c : UInt8) : UInt8 :=
  if 128 ≤ c.toNat then 128 else if isUpper c then c + 32 else c

/-- The pieces of a version. -/
def pieces (s : Bytes) : List Piece :=
  if isDigit s then
    .number (min (decimal (s.takeWhile isDigitByte)) (2 ^ 64 - 1)) ::
      pieces (s.dropWhile isDigitByte)
  else
    match s with
    | [] => []
    | c :: s => .other (fold c) :: pieces s
termination_by s.length
decreasing_by
  · next h => exact dropWhile_shorter h
  · simp

/-- The code of a row of pieces: no character has the code of a number or of the end. -/
def code : List Piece → List Nat
  | [] => [1]
  | .number n :: ps => 0x230 :: n :: code ps
  | .other c :: ps => charValue c :: code ps

/-- A number is one piece. -/
theorem pieces_digit {s : Bytes} (h : isDigit s = true) :
    pieces s = .number (leadingNumber s).1 :: pieces (leadingNumber s).2 := by
  have hne : s.takeWhile isDigitByte ≠ [] := by
    cases s with
    | nil => cases h
    | cons c s => simp [show isDigitByte c = true by simpa [isDigit] using h]
  rw [pieces.eq_def, if_pos h, leadingNumber]
  congr 2
  split <;> simp at * <;> grind

/-- Another character is one piece. -/
theorem pieces_other {c : UInt8} {s : Bytes} (h : isDigit (c :: s) = false) :
    pieces (c :: s) = .other (fold c) :: pieces s := by
  rw [pieces, if_neg (by simp [h])]

theorem charValue_fold : ∀ c : UInt8, charValue (fold c) = charValue c ∧ charValue c ≠ 1 := by
  decide +kernel

/-- The value of a character tells its fold. -/
theorem fold_eq : ∀ c : UInt8, fold c =
    if charValue c = 0 then 126 else if charValue c = 2 then 128 else .ofNat (charValue c) := by
  decide +kernel

/-- What the code of a version starts with. -/
def headCode (s : Bytes) : Nat := if isDigit s then 0x230 else versionValue s

/-- The first value of the code is that of the first piece. -/
theorem code_head (s : Bytes) : ∃ rest, code (pieces s) = headCode s :: rest := by
  by_cases hs : isDigit s = true
  · exact ⟨_, by rw [pieces_digit hs, code, headCode, if_pos hs]⟩
  rw [headCode, if_neg hs]
  cases s with
  | nil => exact ⟨[], by rw [pieces]; rfl⟩
  | cons c s => exact ⟨_, by rw [pieces_other (by simpa using hs), code, (charValue_fold c).1]; rfl⟩

theorem isDigit_iff (s : Bytes) :
    isDigit s = true ↔ 0x230 ≤ versionValue s ∧ versionValue s ≤ 0x239 := by
  cases s with
  | nil => simp [isDigit, versionValue]
  | cons c s =>
    have hor := (c ||| 0x20).toNat_lt
    simp only [isDigit, isDigitByte, versionValue, charValue, head?_cons, any_some]
    split_ifs <;> simp_all [isUpper] <;> omega

/-- Two versions that do not both start with a digit: the codes differ as the values do, and with
    equal values neither does. -/
theorem compare_headCode {a b : Bytes} (h : ¬(isDigit a = true ∧ isDigit b = true)) :
    compare (headCode a) (headCode b) = compare (versionValue a) (versionValue b) ∧
      (versionValue a = versionValue b → isDigit a = false ∧ isDigit b = false) := by
  have ha := isDigit_iff a
  have hb := isDigit_iff b
  simp only [headCode, Nat.compare_eq_ite_lt]
  grind

theorem compare_cons_self (x : Nat) (xs ys : List Nat) :
    compare (x :: xs) (x :: ys) = compare xs ys := by
  simp [List.compare_cons_cons]

theorem compare_cons_ne {x y : Nat} (h : compare x y ≠ .eq) (xs ys : List Nat) :
    compare (x :: xs) (y :: ys) = compare x y := by
  rw [List.compare_cons_cons]
  cases hc : compare x y <;> simp_all

/-- **The order.** `frrVersionCmp` compares the codes, and equal codes are of equal pieces. -/
theorem frrVersionCmp_code (a b : Bytes) :
    frrVersionCmp a b = some (compare (code (pieces a)) (code (pieces b))) ∧
      (frrVersionCmp a b = some .eq → pieces a = pieces b) := by
  fun_induction frrVersionCmp a b with
  | case1 a b h =>
    obtain ⟨rfl, rfl⟩ := h
    exact ⟨by simp, fun _ => rfl⟩
  | case2 a b _ hd hc ih =>
    rw [pieces_digit hd.1, pieces_digit hd.2, Nat.compare_eq_eq.mp hc, code, code,
      compare_cons_self, compare_cons_self]
    exact ⟨ih.1, fun h => by rw [ih.2 h]⟩
  | case3 a b _ hd hc =>
    rw [pieces_digit hd.1, pieces_digit hd.2, code, code, compare_cons_self, compare_cons_ne hc]
    exact ⟨rfl, fun h => (hc (some.inj h)).elim⟩
  | case4 x a y b _ hd hc ih =>
    have hv : charValue x = charValue y := Nat.compare_eq_eq.mp hc
    obtain ⟨hx, hy⟩ := (compare_headCode hd).2 hv
    rw [pieces_other hx, pieces_other hy, fold_eq x, hv, ← fold_eq y, code, code, compare_cons_self]
    exact ⟨ih.1, fun h => by rw [ih.2 h]⟩
  | case5 a b hne _ hc hcons =>
    -- The value of the end is no character's, so neither version is at its end.
    have hv := Nat.compare_eq_eq.mp hc
    cases a with
    | nil =>
      cases b with
      | nil => exact absurd ⟨rfl, rfl⟩ hne
      | cons y b => exact absurd hv.symm (charValue_fold y).2
    | cons x a =>
      cases b with
      | nil => exact absurd hv (charValue_fold x).2
      | cons y b => exact (hcons x a y b rfl rfl).elim
  | case6 a b _ hd hc =>
    obtain ⟨as, ha⟩ := code_head a
    obtain ⟨bs, hb⟩ := code_head b
    have hcode := (compare_headCode hd).1
    rw [ha, hb, compare_cons_ne (hcode ▸ hc), hcode]
    exact ⟨rfl, fun h => (hc (some.inj h)).elim⟩

/-! ### The tilde -/

theorem span_tilde (s t : Bytes) :
    (s ++ 126 :: t).takeWhile isDigitByte = s.takeWhile isDigitByte ∧
      (s ++ 126 :: t).dropWhile isDigitByte = s.dropWhile isDigitByte ++ 126 :: t := by
  induction s with
  | nil => exact ⟨rfl, rfl⟩
  | cons c s ih =>
    simp only [cons_append, takeWhile_cons, dropWhile_cons]
    split
    · exact ⟨by rw [ih.1], ih.2⟩
    · exact ⟨rfl, rfl⟩

/-- A `~` sorts before the end. -/
theorem compare_tilde (s t : Bytes) :
    compare (code (pieces (s ++ 126 :: t))) (code (pieces s)) = .lt := by
  fun_induction pieces s with
  | case1 s hs ih =>
    rw [pieces.eq_def, if_pos (by cases s <;> simp_all [isDigit]), (span_tilde s t).1,
      (span_tilde s t).2, code, code, compare_cons_self, compare_cons_self, ih]
  | case2 =>
    rw [nil_append, pieces_other rfl]
    rfl
  | case3 c s hs ih =>
    rw [cons_append, pieces_other (by simpa [isDigit] using hs), code, code, compare_cons_self, ih]

/-- **The laws of the order.** -/
theorem frrVersionCmp_preorder (a b c : Bytes) : ∃ x y z : Ordering,
    frrVersionCmp a b = some x ∧ frrVersionCmp b c = some y ∧ frrVersionCmp a c = some z ∧
      frrVersionCmp b a = some x.swap ∧ (x.isLE → y.isLE → z.isLE) ∧
      (x = .eq ↔ pieces a = pieces b) ∧ frrVersionCmp (a ++ 126 :: b) a = some .lt := by
  have hab := frrVersionCmp_code a b
  refine ⟨_, _, _, hab.1, (frrVersionCmp_code b c).1, (frrVersionCmp_code a c).1, ?_,
    Std.TransCmp.isLE_trans, ⟨fun h => hab.2 (by rw [hab.1, h]), fun h => by simp [h]⟩, ?_⟩
  · rw [(frrVersionCmp_code b a).1, Std.OrientedOrd.eq_swap]
  · rw [(frrVersionCmp_code _ a).1, compare_tilde]

end Booty.Frrconf
