import Mathlib

namespace Booty.Lib

open List

/-!
# Go strings as bytes

A Go string is a sequence of bytes that need not be valid UTF-8.  Here it is a text with one
character below U+0100 for each byte, so that an ASCII literal is written as in the source.
`strings.Fields` and `strings.TrimSpace` know the white space of Unicode by its encoding: none of
these encodings can begin inside another character.
-/

/-- A byte string. -/
def goString (b : List UInt8) : List Char := b.map fun x => Char.ofNat x.toNat

/-- How many bytes the white space character at the front has; zero if there is none. -/
def spaceWidth : List Char → Nat
  | [] => 0
  | c :: rest =>
    if (9 ≤ c.toNat && c.toNat ≤ 13) || c.toNat == 32 then 1
    else
      match c.toNat, rest.map Char.toNat with
      | 0xc2, b :: _ => if b == 0x85 || b == 0xa0 then 2 else 0
      | 0xe1, 0x9a :: 0x80 :: _ => 3
      | 0xe2, 0x80 :: b :: _ =>
        if (0x80 ≤ b && b ≤ 0x8a) || b == 0xa8 || b == 0xa9 || b == 0xaf then 3 else 0
      | 0xe2, 0x81 :: 0x9f :: _ => 3
      | 0xe3, 0x80 :: 0x80 :: _ => 3
      | _, _ => 0

/-- Every byte with whether it is part of white space; `skip` bytes of a character are left. -/
def markSpace : Nat → List Char → List (Char × Bool)
  | _, [] => []
  | skip + 1, c :: cs => (c, true) :: markSpace skip cs
  | 0, c :: cs =>
    match spaceWidth (c :: cs) with
    | 0 => (c, false) :: markSpace 0 cs
    | w + 1 => (c, true) :: markSpace w cs

/-- `strings.Fields`. -/
def fields (cs : List Char) : List String :=
  (((markSpace 0 cs).splitOnP Prod.snd).filter (· ≠ [])).map fun w => String.ofList (w.map Prod.fst)

/-- `strings.TrimSpace`. -/
def trimFields (cs : List Char) : String :=
  String.ofList (((((markSpace 0 cs).dropWhile Prod.snd).reverse.dropWhile Prod.snd).reverse).map
    Prod.fst)

/-! ### Words

A text without white space is one field, also in front of a blank. -/

/-- No byte is part of white space. -/
def Unspaced (cs : List Char) : Prop := ∀ p ∈ markSpace 0 cs, p.2 = false

/-- A text that is one field. -/
def IsWord (s : String) : Prop := s ≠ "" ∧ Unspaced s.toList

instance (cs : List Char) : Decidable (Unspaced cs) :=
  inferInstanceAs (Decidable (∀ p ∈ markSpace 0 cs, p.2 = false))

instance (s : String) : Decidable (IsWord s) :=
  inferInstanceAs (Decidable (s ≠ "" ∧ Unspaced s.toList))

variable {c : Char} {cs : List Char}

theorem unspaced_cons : Unspaced (c :: cs) ↔ spaceWidth (c :: cs) = 0 ∧ Unspaced cs := by
  unfold Unspaced
  rw [markSpace]
  split
  next hw => simp [hw]
  next w hw => simp [hw]

theorem Unspaced.not_ascii_space (h : Unspaced cs) (hc : c ∈ cs) :
    ¬(9 ≤ c.toNat ∧ c.toNat ≤ 13) ∧ c.toNat ≠ 32 := by
  induction cs with
  | nil => exact absurd hc not_mem_nil
  | cons x cs ih =>
    obtain ⟨hwidth, hrest⟩ := unspaced_cons.mp h
    obtain rfl | hc := mem_cons.mp hc
    · rw [spaceWidth] at hwidth
      split at hwidth
      · cases hwidth
      next hascii => grind
    · exact ih hrest hc

/-- A blank does not complete the encoding of a white space character. -/
theorem spaceWidth_append (rest : List Char)
    (h : spaceWidth (c :: cs) = 0) : spaceWidth (c :: cs ++ ' ' :: rest) = 0 := by
  have hblank : ' '.toNat = 32 := rfl
  revert h
  match cs with
  | [] =>
    simp only [spaceWidth]
    intro h
    split at h
    · cases h
    next hascii =>
      grind
  | [a] =>
    simp only [spaceWidth]
    intro h
    split at h
    · cases h
    next hascii =>
      grind
  | a :: b :: cs =>
    simp only [spaceWidth, cons_append]
    intro h
    split at h
    · cases h
    next hascii =>
      rw [if_neg hascii]
      split <;> simp_all

theorem markSpace_unspaced (h : Unspaced cs) : markSpace 0 cs = cs.map fun c => (c, false) := by
  induction cs with
  | nil => rfl
  | cons c cs ih =>
    obtain ⟨hwidth, hrest⟩ := unspaced_cons.mp h
    simp only [markSpace, hwidth, ih hrest, map_cons]

theorem markSpace_append (h : Unspaced cs) (rest : List Char) :
    markSpace 0 (cs ++ ' ' :: rest) =
      cs.map (fun c => (c, false)) ++ (' ', true) :: markSpace 0 rest := by
  induction cs with
  | nil => rfl
  | cons c cs ih =>
    obtain ⟨hwidth, hrest⟩ := unspaced_cons.mp h
    have hwidth' := spaceWidth_append rest hwidth
    rw [cons_append] at hwidth' ⊢
    simp only [markSpace, hwidth', ih hrest, map_cons, cons_append]

/-- A word in front of a blank is the first field. -/
theorem fields_word_append {w : String} (h : IsWord w) (rest : List Char) :
    fields (w.toList ++ ' ' :: rest) = w :: fields rest := by
  unfold fields
  rw [markSpace_append h.2, splitOnP_append_cons_of_forall_mem (by simp) _ rfl,
    filter_cons_of_pos (by simpa using h.1)]
  simp [Function.comp_def]

/-- A word is its only field. -/
theorem fields_word {w : String} (h : IsWord w) : fields w.toList = [w] := by
  unfold fields
  rw [markSpace_unspaced h.2, splitOnP_eq_singleton (by simp), filter_cons_of_pos
    (by simpa using h.1)]
  simp [Function.comp_def]

/-- Words with blanks between them. -/
def joinWords : List String → List Char
  | [] => []
  | [w] => w.toList
  | w :: v :: words => w.toList ++ ' ' :: joinWords (v :: words)

theorem mem_joinWords {words : List String} (h : c ∈ joinWords words) :
    c = ' ' ∨ ∃ w ∈ words, c ∈ w.toList := by
  fun_induction joinWords words with
  | case1 => exact absurd h not_mem_nil
  | case2 w => exact .inr ⟨w, mem_cons_self, h⟩
  | case3 w v words ih => grind

/-- **The fields of words** are the words. -/
theorem fields_joinWords {words : List String} (h : ∀ w ∈ words, IsWord w) :
    fields (joinWords words) = words := by
  fun_induction joinWords words with
  | case1 => rfl
  | case2 w => exact fields_word (h w mem_cons_self)
  | case3 w v words ih => grind [fields_word_append]

/-- `strconv.ParseUint` in base 10. -/
def parseUintBase10 (bits : Nat) (s : String) : Option Nat :=
  if s.toList ≠ [] ∧ s.toList.all Char.isDigit then
    let n := s.toList.foldl (fun n c => 10 * n + (c.toNat - '0'.toNat)) 0
    if n < 2 ^ bits then some n else none
  else none

/-- `strconv.Atoi` on a 64-bit machine. -/
def atoi (s : String) : Option Int :=
  match s.toList with
  | '-' :: ds =>
    ((parseUintBase10 64 (String.ofList ds)).filter (· ≤ 2 ^ 63)).map fun n => -(n : Int)
  | '+' :: ds =>
    ((parseUintBase10 64 (String.ofList ds)).filter (· < 2 ^ 63)).map fun n => (n : Int)
  | _ => ((parseUintBase10 64 s).filter (· < 2 ^ 63)).map fun n => (n : Int)

/-- `strconv.FormatBool`. -/
def formatBool (b : Bool) : String := if b then "true" else "false"

/-- A character as `strconv.Quote` writes it; past ASCII every one counts as printable. -/
def quoteChar (c : Char) : List Char :=
  match c.toNat with
  | 0x22 | 0x5c => ['\\', c]
  | 0x07 => ['\\', 'a']
  | 0x08 => ['\\', 'b']
  | 0x09 => ['\\', 't']
  | 0x0a => ['\\', 'n']
  | 0x0b => ['\\', 'v']
  | 0x0c => ['\\', 'f']
  | 0x0d => ['\\', 'r']
  | n => if n < 0x20 || n = 0x7f then ['\\', 'x', (n / 16).digitChar, (n % 16).digitChar] else [c]

/-- `strconv.Quote`, the text of `%q`. -/
def quoted (s : String) : String := String.ofList ('"' :: s.toList.flatMap quoteChar ++ ['"'])

/-- `strings.Cut` at one character. -/
def cutAt (sep : Char) (s : String) : Option (String × String) :=
  if sep ∈ s.toList then
    some (String.ofList (s.toList.takeWhile (· ≠ sep)),
      String.ofList ((s.toList.dropWhile (· ≠ sep)).drop 1))
  else none

end Booty.Lib
