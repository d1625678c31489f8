import Mathlib

namespace Booty.Lib

open List

/-!
# Byte strings, byte order and random-access files

Byte strings are lists of `UInt8`.  A file is the byte string of its content, read as zeros
past its end:

* `byteAt b i` — the byte at `i`, zero past the end;
* `resize b n` — exactly `n` bytes, cut or padded with zeros (`ftruncate`);
* `window b off n` — `n` bytes from `off` on, padded with zeros;
* `writeAt b off w` — the content after writing `w` at `off` (`pwrite`: a write past the end
  leaves a hole of zeros, an empty write changes nothing).

Every one of them is characterised by its length and its `byteAt`, and `ext_byteAt` makes
two byte strings equal from these two facts.  `bigEndian`, `littleEndian` and `putBigEndian`
are the fixed-width integers of a wire or disk format.
-/

/-- A byte string, also the content of a file. -/
abbrev Bytes := List UInt8

variable (b : Bytes)

/-- The byte at offset `i`; zero past the end. -/
def byteAt (i : Nat) : UInt8 := b.getD i 0

/-- Exactly `n` bytes: `b` cut, or padded with zeros. -/
def resize (n : Nat) : Bytes := b.take n ++ List.replicate (n - b.length) 0

/-- The `n` bytes of `b` from offset `off` on, zeros past the end of `b`. -/
def window (off n : Nat) : Bytes := resize (b.drop off) n

/-- The content after writing `w` at offset `off`. -/
def writeAt (off : Nat) (w : Bytes) : Bytes :=
  if w = [] then b else resize b off ++ w ++ b.drop (off + w.length)

/-! ### Lengths and single bytes -/

@[simp] theorem byteAt_nil (i : Nat) : byteAt [] i = 0 := by simp [byteAt]

theorem byteAt_of_length_le {b : Bytes} {i : Nat} (h : b.length ≤ i) : byteAt b i = 0 := by
  rw [byteAt, getD_eq_getElem?_getD, getElem?_eq_none h]; rfl

theorem byteAt_eq_getElem {b : Bytes} {i : Nat} (h : i < b.length) : byteAt b i = b[i] := by
  rw [byteAt, getD_eq_getElem?_getD, getElem?_eq_getElem h]; rfl

/-- Two byte strings of one length are equal when they agree at every offset. -/
theorem ext_byteAt {b c : Bytes} (hlen : b.length = c.length)
    (h : ∀ i, i < b.length → byteAt b i = byteAt c i) : b = c := by
  grind [ext_getElem, byteAt_eq_getElem]

/-- The bytes of two texts. -/
theorem byteAt_append (b c : Bytes) (i : Nat) :
    byteAt (b ++ c) i = if i < b.length then byteAt b i else byteAt c (i - b.length) := by
  simp only [byteAt, getD_eq_getElem?_getD, getElem?_append]
  split <;> rfl

theorem byteAt_drop (k i : Nat) : byteAt (b.drop k) i = byteAt b (k + i) := by
  simp [byteAt]

theorem byteAt_take (k i : Nat) : byteAt (b.take k) i = if i < k then byteAt b i else 0 := by
  simp only [byteAt, getD_eq_getElem?_getD, getElem?_take]
  split <;> rfl

@[simp] theorem byteAt_replicate_zero (n i : Nat) : byteAt (replicate n 0) i = 0 := by
  simp only [byteAt, getD_eq_getElem?_getD, getElem?_replicate]
  split <;> rfl

@[simp] theorem length_resize (n : Nat) : (resize b n).length = n := by
  simp only [resize, length_append, length_take, length_replicate]; omega

/-- The bytes of a resized text. -/
theorem byteAt_resize (n i : Nat) : byteAt (resize b n) i = if i < n then byteAt b i else 0 := by
  rw [resize, byteAt_append, byteAt_take, byteAt_replicate_zero, length_take]
  by_cases hn : i < n
  · by_cases hb : i < b.length
    · rw [if_pos (by omega)]
    · grind [byteAt_of_length_le]
  · rw [if_neg hn, if_neg (by omega)]

@[simp] theorem length_window (off n : Nat) : (window b off n).length = n := length_resize _ _

/-- The bytes of a window. -/
theorem byteAt_window (off n i : Nat) :
    byteAt (window b off n) i = if i < n then byteAt b (off + i) else 0 := by
  rw [window, byteAt_resize, byteAt_drop]

/-- A window of a window is a window of the whole. -/
theorem window_window {b : Bytes} {off n i k : Nat} (h : i + k ≤ n) :
    window (window b off n) i k = window b (off + i) k := by
  refine ext_byteAt (by simp) (fun j hj => ?_)
  rw [length_window] at hj
  rw [byteAt_window, byteAt_window, byteAt_window, if_pos hj, if_pos hj, if_pos (by omega),
    Nat.add_assoc]

/-- Inside the byte string a window is a plain slice. -/
theorem window_eq_slice {b : Bytes} {off n : Nat} (h : off + n ≤ b.length) :
    window b off n = (b.drop off).take n := by
  rw [window, resize, length_drop, Nat.sub_eq_zero_of_le (by omega)]; simp

section Split

variable {b data rest : Bytes} {off : Nat}

/-- What follows a part of a byte string. -/
theorem drop_of_split (h : b.drop off = data ++ rest) : rest = b.drop (off + data.length) := by
  rw [← drop_drop, h, drop_left]

theorem le_length_of_split (h : b.drop off = data ++ rest) (hne : data ≠ []) :
    off + data.length ≤ b.length := by
  grind [length_pos_of_ne_nil, length_drop]

/-- A part of a byte string is its window. -/
theorem window_of_split {n : Nat} (h : b.drop off = data ++ rest) (hn : data.length = n)
    (hin : off + n ≤ b.length) : window b off n = data := by
  rw [window_eq_slice hin, h, ← hn, take_left]

end Split

/-- A write changes the bytes it covers and no other. -/
theorem byteAt_writeAt (off : Nat) (w : Bytes) (i : Nat) : byteAt (writeAt b off w) i =
      if off ≤ i ∧ i < off + w.length then byteAt w (i - off) else byteAt b i := by
  rw [writeAt]
  by_cases hw : w = []
  · rw [if_pos hw, if_neg (by simp [hw])]
  · rw [if_neg hw, byteAt_append, byteAt_append, byteAt_drop, byteAt_resize, length_append,
      length_resize]
    grind

/-! ### Fixed-width integers -/

/-- The natural number with the given bytes, most significant first. -/
def bigEndian : Nat := b.foldl (fun acc v => acc * 256 + v.toNat) 0

/-- The natural number with the given bytes, least significant first. -/
def littleEndian : Nat := b.foldr (fun v acc => v.toNat + 256 * acc) 0

/-- The low `n` bytes of `v`, most significant first. -/
def putBigEndian : Nat → Nat → Bytes
  | 0, _ => []
  | n + 1, v => putBigEndian n (v / 256) ++ [UInt8.ofNat v]

@[simp] theorem length_putBigEndian (n v : Nat) : (putBigEndian n v).length = n := by
  induction n generalizing v with
  | zero => rfl
  | succ n ih => rw [putBigEndian, length_append, ih]; rfl

/-- The last byte is the lowest. -/
theorem bigEndian_concat (v : UInt8) : bigEndian (b ++ [v]) = bigEndian b * 256 + v.toNat := by
  simp [bigEndian]

/-- A number is below the bound of its width. -/
theorem bigEndian_lt : bigEndian b < 256 ^ b.length := by
  induction b using reverseRecOn with
  | nil => simp [bigEndian]
  | append_singleton b v ih =>
    grind [bigEndian_concat, v.toNat_lt]

theorem littleEndian_lt : littleEndian b < 256 ^ b.length := by
  induction b with
  | nil => simp [littleEndian]
  | cons v b ih =>
    have hv := v.toNat_lt
    have hcons : littleEndian (v :: b) = v.toNat + 256 * littleEndian b := rfl
    rw [length_cons]
    omega

/-- **Round trip.** Reading back `n` big-endian bytes of `v` gives `v` modulo `256 ^ n`. -/
theorem bigEndian_putBigEndian (n v : Nat) : bigEndian (putBigEndian n v) = v % 256 ^ n := by
  induction n generalizing v with
  | zero => simp [putBigEndian, bigEndian, Nat.mod_one]
  | succ n ih =>
    have hmod : v % 256 ^ (n + 1) = v % 256 + 256 * (v / 256 % 256 ^ n) := by
      rw [pow_succ', Nat.mod_mul]
    have hbyte : (UInt8.ofNat v).toNat = v % 256 := UInt8.toNat_ofNat'
    rw [putBigEndian, bigEndian_concat, ih, hbyte, hmod]
    ring

/-! ### Text in a byte string -/

/-- A continuation byte of UTF-8 within bounds. -/
def isContinuation (lo hi b : UInt8) : Bool := lo ≤ b && b ≤ hi

/-- The width of the UTF-8 character at the front (`utf8.DecodeRune`); zero if there is none. -/
def runeWidth : Bytes → Nat
  | [] => 0
  | b :: rest =>
    let tail := fun (lo hi : UInt8) (n : Nat) =>
      if rest.length ≥ n ∧ (rest.take 1).all (isContinuation lo hi) ∧
          ((rest.drop 1).take (n - 1)).all (isContinuation 0x80 0xbf) then n + 1
      else 0
    if b < 0x80 then 1
    else if 0xc2 ≤ b ∧ b ≤ 0xdf then tail 0x80 0xbf 1
    else if b = 0xe0 then tail 0xa0 0xbf 2
    else if b = 0xed then tail 0x80 0x9f 2
    else if 0xe1 ≤ b ∧ b ≤ 0xef then tail 0x80 0xbf 2
    else if b = 0xf0 then tail 0x90 0xbf 3
    else if 0xf1 ≤ b ∧ b ≤ 0xf3 then tail 0x80 0xbf 3
    else if b = 0xf4 then tail 0x80 0x8f 3
    else 0

/-- The bytes that belong to a character; `left` bytes of one are still to come. -/
def keepRunes : Nat → Bytes → Bytes
  | _, [] => []
  | left + 1, b :: rest => b :: keepRunes left rest
  | 0, b :: rest =>
    match runeWidth (b :: rest) with
    | 0 => keepRunes 0 rest
    | w + 1 => b :: keepRunes w rest

/-- `strings.ToValidUTF8` with an empty replacement. -/
def toValidUTF8 : Bytes := keepRunes 0 b

theorem length_keepRunes_le (left : Nat) (b : Bytes) : (keepRunes left b).length ≤ b.length := by
  induction b generalizing left with
  | nil =>
    cases left <;> exact Nat.le_refl _
  | cons c rest ih =>
    cases left with
    | succ left => exact Nat.succ_le_succ (ih left)
    | zero =>
      rw [keepRunes]
      split
      · exact Nat.le_succ_of_le (ih 0)
      next w _ => exact Nat.succ_le_succ (ih w)

/-- `strings.ToValidUTF8` without a replacement makes nothing longer. -/
theorem length_toValidUTF8_le : (toValidUTF8 b).length ≤ b.length := length_keepRunes_le 0 b

end Booty.Lib
