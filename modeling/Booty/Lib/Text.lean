import Mathlib

namespace Booty.Lib

open List

/-!
# Go's text functions

Strings are handled as lists of characters.  White space is exactly Unicode's `White_Space`
property, as in `unicode.IsSpace`.  The case tables and the quoting of `%q` come from Unicode's
data files; they are a parameter (`Unicode`), and nothing depends on their content.
-/

/-- `unicode.IsSpace`. -/
def isSpace (c : Char) : Bool :=
  let n := c.toNat
  (0x09 ≤ n && n ≤ 0x0d) || n == 0x20 || n == 0x85 || n == 0xa0 || n == 0x1680 ||
    (0x2000 ≤ n && n ≤ 0x200a) || n == 0x2028 || n == 0x2029 || n == 0x202f || n == 0x205f ||
    n == 0x3000

/-- `strings.TrimSpace`. -/
def trimSpace (s : String) : String :=
  String.ofList (((s.toList.dropWhile isSpace).reverse.dropWhile isSpace).reverse)

/-- `strings.Fields`. -/
def textFields (s : String) : List String :=
  ((s.toList.splitOnP isSpace).filter (· ≠ [])).map String.ofList

theorem textFields_blank (s t : String) :
    textFields (s ++ " " ++ t) = textFields s ++ textFields t := by
  have hlist : (s ++ " " ++ t).toList = s.toList ++ ' ' :: t.toList := by simp
  unfold textFields
  rw [hlist, splitOnP_append_cons _ _ (by decide), filter_append, map_append]

/-- A text without blanks. -/
abbrev Word (s : String) : Prop := textFields s = [s]

/-- No piece of a split text has a separator. -/
theorem not_of_mem_splitOnP {α : Type} {p : α → Bool} {xs l : List α} (h : l ∈ xs.splitOnP p) :
    ∀ x ∈ l, p x = false := by
  induction xs generalizing l with
  | nil => simp_all
  | cons x xs ih =>
    rw [splitOnP_cons_eq_if_modifyHead] at h
    split_ifs at h with hx
    · aesop
    · obtain ⟨hd, tl, hsplit⟩ := exists_cons_of_ne_nil (splitOnP_ne_nil p xs)
      have hmem : ∀ l' ∈ hd :: tl, ∀ x ∈ l', p x = false := fun l' hl' => ih (hsplit ▸ hl')
      rw [hsplit] at h
      rcases mem_cons.mp h with rfl | h
      · grind
      · exact hmem l (mem_cons_of_mem _ h)

theorem isSpace_of_mem_textFields {s w : String} (hw : w ∈ textFields s) :
    w ≠ "" ∧ ∀ c ∈ w.toList, isSpace c = false := by
  obtain ⟨l, hl, rfl⟩ := mem_map.mp hw
  obtain ⟨hsplit, hne⟩ := mem_filter.mp hl
  rw [String.toList_ofList]
  exact ⟨fun h => of_decide_eq_true hne (String.ofList_eq_empty_iff.mp h),
    not_of_mem_splitOnP hsplit⟩

/-- A field is a word. -/
theorem word_of_mem_textFields {s w : String} (hw : w ∈ textFields s) : Word w := by
  obtain ⟨hne, hspace⟩ := isSpace_of_mem_textFields hw
  have hcons : w.toList ≠ [] := fun h => hne (String.toList_eq_nil_iff.mp h)
  simp [Word, textFields, splitOnP_eq_singleton hspace, hcons]

/-- Words that were joined with blanks are read back. -/
theorem textFields_intercalate {ws : List String} (h : ∀ w ∈ ws, Word w) :
    textFields (" ".intercalate ws) = ws := by
  induction ws with
  | nil => rfl
  | cons v ws ih =>
    have hv : Word v := h v mem_cons_self
    have hws := ih fun w hw => h w (mem_cons_of_mem _ hw)
    cases ws with
    | nil => exact hv
    | cons u ws => rw [String.intercalate_cons_cons, textFields_blank, hv, hws, singleton_append]

/-- A line of words has no white space but the blanks. -/
theorem isSpace_of_mem_intercalate {ws : List String} {c : Char} (h : ∀ w ∈ ws, Word w)
    (hc : c ∈ (" ".intercalate ws).toList) : c = ' ' ∨ isSpace c = false := by
  induction ws with
  | nil => cases hc
  | cons v ws ih =>
    have hv : ∀ c ∈ v.toList, isSpace c = false :=
      (isSpace_of_mem_textFields ((h v mem_cons_self).symm ▸ mem_singleton_self v)).2
    cases ws with
    | nil => exact .inr (hv c hc)
    | cons u ws =>
      rw [String.intercalate_cons_cons, String.toList_append, String.toList_append] at hc
      rcases mem_append.mp hc with hc | hc
      · rcases mem_append.mp hc with hc | hc
        · exact .inr (hv c hc)
        · exact .inl (mem_singleton.mp hc)
      · exact ih (fun w hw => h w (mem_cons_of_mem _ hw)) hc

/-- Lines that were joined are determined by the text. -/
theorem lines_inj {ls ls' : List (List Char)} (h : ∀ l ∈ ls, l ≠ [] ∧ '\n' ∉ l)
    (h' : ∀ l ∈ ls', l ≠ [] ∧ '\n' ∉ l) (heq : ['\n'].intercalate ls = ['\n'].intercalate ls') :
    ls = ls' := by
  have hsplit : ∀ {l : List (List Char)}, (∀ x ∈ l, x ≠ [] ∧ '\n' ∉ x) →
      (['\n'].intercalate l).splitOn '\n' = if l = [] then [[]] else l := by
    intro l hl
    split_ifs with hnil
    · rw [hnil]
      rfl
    · exact splitOn_intercalate '\n' (fun x hx => (hl x hx).2) hnil
  have hlines := (hsplit h).symm.trans ((congrArg (·.splitOn '\n') heq).trans (hsplit h'))
  grind

/-- The parts of Unicode's data files that Go's text functions use: the lower case of a
    character, the representative of its case folding orbit, and `strconv.Quote`. -/
structure Unicode where
  lower : Char → Char
  fold : Char → Char
  quote : String → String

/-- Case tables that know ASCII only. -/
def asciiTables : Unicode where
  lower := Char.toLower
  fold := Char.toLower
  quote s := s

/-- The letter classes of Unicode's data files: `unicode.IsLetter` and its relatives. -/
structure LetterTables extends Unicode where
  isLetter : Char → Bool
  isLower : Char → Bool
  isUpper : Char → Bool
  isDigit : Char → Bool

/-- Letter classes that know ASCII only. -/
def asciiLetters : LetterTables where
  toUnicode := asciiTables
  isLetter := Char.isAlpha
  isLower := Char.isLower
  isUpper := Char.isUpper
  isDigit := Char.isDigit

/-- `strings.ToLower`. -/
def toLower (u : Unicode) (s : String) : String := String.ofList (s.toList.map u.lower)

/-- `strings.EqualFold`. -/
def equalFold (u : Unicode) (s t : String) : Bool := s.toList.map u.fold == t.toList.map u.fold

/-- `strings.ReplaceAll` of one character by another. -/
def replaceChar (old new : Char) (s : String) : String :=
  String.ofList (s.toList.map (fun c => if c = old then new else c))

/-- `strings.HasPrefix` and `strings.TrimPrefix`: the rest of `s` after `p`. -/
def afterPrefix (p s : String) : Option String :=
  if p.toList.isPrefixOf s.toList then some (String.ofList (s.toList.drop p.toList.length))
  else none

/-- The digits of `n` in base 16, at least `width` of them, in upper case (`%0*X`). -/
def upperHex (width n : Nat) : String :=
  let digits := (Nat.toDigits 16 n).map Char.toUpper
  String.ofList (List.replicate (width - digits.length) '0' ++ digits)

/-- The digits of `n` in base 16, at least `width` of them, in lower case (`%0*x`). -/
def lowerHex (width n : Nat) : String :=
  let digits := Nat.toDigits 16 n
  String.ofList (List.replicate (width - digits.length) '0' ++ digits)

/-- `utf16.Decode`: surrogate pairs are joined, a lone surrogate becomes U+FFFD. -/
def utf16Decode : List Nat → List Char
  | [] => []
  | [r] => [if 0xd800 ≤ r ∧ r < 0xe000 then Char.ofNat 0xfffd else Char.ofNat r]
  | r :: t :: rest =>
    if 0xd800 ≤ r ∧ r < 0xdc00 ∧ 0xdc00 ≤ t ∧ t < 0xe000 then
      Char.ofNat ((r - 0xd800) * 0x400 + (t - 0xdc00) + 0x10000) :: utf16Decode rest
    else
      (if 0xd800 ≤ r ∧ r < 0xe000 then Char.ofNat 0xfffd else Char.ofNat r) ::
        utf16Decode (t :: rest)

end Booty.Lib
