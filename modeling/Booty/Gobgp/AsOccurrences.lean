import Booty.Lib.Pattern

namespace Booty.Gobgp

open Booty.Lib List Nat Pattern

/-!
# Occurrences of an AS in a path

GoBGP matches an AS path as text, the AS numbers with a space between them.

* `asOccurrences` — the pattern of the source, `asOccurrences_text` its text.
* `asOccurrences_match` — it matches the paths with at least that many occurrences;
  `asOccurrences_counts` says so of 32-bit AS numbers.
-/

/-- The decimal digits of a number. -/
def digits (n : Nat) : List Char := Nat.toDigits 10 n

/-- The text of an AS path, `65500 65501 65501`. -/
def asPathText (path : List Nat) : List Char := [' '].intercalate (path.map digits)

/-- `( .* | )`. -/
def asSeparator : Pattern := .alt (.seq (.chars [' ']) (.seq .dots (.chars [' ']))) (.chars [' '])

/-- `strings.Join` of `n` times the AS with the separator. -/
def asJoin (as : Nat) : Nat → Pattern
  | 0 => .chars []
  | 1 => .chars (digits as)
  | n + 2 => .seq (.chars (digits as)) (.seq asSeparator (asJoin as (n + 1)))

/-- `asOccurrences`: the paths with at least `n` occurrences of the AS. -/
def asOccurrences (as n : Nat) : Pattern :=
  .seq (.opt (.seq .dots (.chars [' '])))
    (.seq (asJoin as n) (.opt (.seq (.chars [' ']) .dots)))

/-- The text of the pattern is the AS, as often as counted. -/
theorem asJoin_text (as n : Nat) :
    (asJoin as n).text = asSeparator.text.intercalate (replicate n (digits as)) := by
  induction n using asJoin.induct with
  | case1 => rfl
  | case2 => simp [asJoin, text]
  | case3 n ih =>
    simp only [asJoin, text, ih]
    simp [replicate_succ]

/-- The text that the source builds. -/
theorem asOccurrences_text (as n : Nat) :
    '^' :: (asOccurrences as n).text ++ ['$'] =
      "^(.* )?".toList ++ "( .* | )".toList.intercalate (replicate n (digits as)) ++
        "( .*)?$".toList := by
  have hsep : "( .* | )".toList = asSeparator.text := by decide
  simp only [asOccurrences, text, asJoin_text, hsep]
  simp

/-! ### Texts -/

/-- The digits tell the number. -/
theorem digits_injective : Function.Injective digits := by
  intro m n h
  have hm := ofDigitChars_toDigits (b := 10) (n := m) (by decide) (by decide)
  have hn := ofDigitChars_toDigits (b := 10) (n := n) (by decide) (by decide)
  rw [← hm, ← hn]
  exact congrArg (ofDigitChars 10 · 0) h

theorem isDigit_of_mem_digits {n : Nat} {c : Char} (h : c ∈ digits n) : c.isDigit = true :=
  isDigit_of_mem_toDigits (by decide) (by decide) h

theorem space_not_mem_digits (n : Nat) : ' ' ∉ digits n :=
  fun h => absurd (isDigit_of_mem_digits h) (by decide)

theorem asPathText_cons (as : Nat) {path : List Nat} (h : path ≠ []) :
    asPathText (as :: path) = digits as ++ ' ' :: asPathText path := by
  obtain ⟨b, path, rfl⟩ := exists_cons_of_ne_nil h
  simp [asPathText]

theorem newline_not_mem_asPathText (path : List Nat) : '\n' ∉ asPathText path := by
  induction path with
  | nil => simp [asPathText]
  | cons as path ih =>
    have hdigits : '\n' ∉ digits as := fun h => absurd (isDigit_of_mem_digits h) (by decide)
    by_cases hnil : path = []
    · simpa [hnil, asPathText] using hdigits
    · simp [asPathText_cons as hnil, hdigits, ih]

/-- What stands before an AS in the text. -/
def textBefore : List Nat → List Char
  | [] => []
  | path => asPathText path ++ [' ']

/-- What stands after an AS in the text. -/
def textAfter : List Nat → List Char
  | [] => []
  | path => ' ' :: asPathText path

/-- The text of a path around an AS. -/
theorem asPathText_append (before : List Nat) (as : Nat) (after : List Nat) :
    asPathText (before ++ as :: after) = textBefore before ++ (digits as ++ textAfter after) := by
  induction before with
  | nil =>
    cases after with
    | nil => simp [asPathText, textBefore, textAfter]
    | cons b after => simp [textBefore, textAfter, asPathText_cons]
  | cons b before ih =>
    rw [cons_append, asPathText_cons b (by simp), ih]
    cases before with
    | nil => simp [textBefore, asPathText]
    | cons c before => simp [textBefore, asPathText_cons]

/-! ### Words -/

theorem splitOn_space (xs ys : List Char) :
    (xs ++ ' ' :: ys).splitOn ' ' = xs.splitOn ' ' ++ ys.splitOn ' ' :=
  splitOnP_append_cons xs ys (by decide)

theorem splitOn_digits (n : Nat) : (digits n).splitOn ' ' = [digits n] := by
  have h : ([' '].intercalate [digits n]).splitOn ' ' = [digits n] :=
    splitOn_intercalate ' ' (by simpa using space_not_mem_digits n) (by simp)
  simpa using h

/-- The words of a path are its ASes. -/
theorem splitOn_asPathText {path : List Nat} (h : path ≠ []) :
    (asPathText path).splitOn ' ' = path.map digits := by
  refine splitOn_intercalate ' ' (fun l hl => ?_) (by simpa using h)
  obtain ⟨n, -, rfl⟩ := mem_map.mp hl
  exact space_not_mem_digits n

/-- Nothing, or a space and more. -/
def Spaced (v : List Char) : Prop := v = [] ∨ ∃ w, v = ' ' :: w

theorem splitOn_digits_append (n : Nat) {v : List Char} (hv : Spaced v) :
    ∃ ws, (digits n ++ v).splitOn ' ' = digits n :: ws := by
  rcases hv with rfl | ⟨w, rfl⟩
  · exact ⟨[], by rw [append_nil, splitOn_digits]⟩
  · exact ⟨w.splitOn ' ', by rw [splitOn_space, splitOn_digits, singleton_append]⟩

/-- A text of `n + 1` joined occurrences has at least so many words that are the AS. -/
theorem asJoin_count (as n : Nat) {u v : List Char} (hu : (asJoin as (n + 1)).Matches u)
    (hv : Spaced v) : n + 1 ≤ ((u ++ v).splitOn ' ').count (digits as) := by
  induction n generalizing u with
  | zero =>
    obtain ⟨ws, hws⟩ := splitOn_digits_append as hv
    rw [show u = digits as from hu, hws, count_cons_self]
    exact le_add_left 1 _
  | succ n ih =>
    obtain ⟨_, _, rfl, rfl, sep, u', rfl, hsep, hu'⟩ := hu
    have hrest := ih hu'
    rcases hsep with ⟨_, _, rfl, rfl, d, _, rfl, -, rfl⟩ | rfl
    · have hsplit : (digits as ++ ([' '] ++ (d ++ [' ']) ++ u') ++ v).splitOn ' ' =
          digits as :: (d.splitOn ' ' ++ (u' ++ v).splitOn ' ') := by
        simp only [append_assoc, cons_append, nil_append]
        rw [splitOn_space, splitOn_space, splitOn_digits, singleton_append]
      rw [hsplit, count_cons_self, count_append]
      omega
    · grind [splitOn_space, splitOn_digits]

/-- A path with `n + 1` occurrences: its text around the joined occurrences. -/
theorem asJoin_of_count (as n : Nat) {path : List Nat} (h : n + 1 ≤ path.count as) :
    ∃ before u after, asPathText path = textBefore before ++ (u ++ textAfter after) ∧
      (asJoin as (n + 1)).Matches u := by
  have hmem : as ∈ path := count_pos_iff.mp (by omega)
  obtain ⟨before, after, rfl, hnot⟩ := eq_append_cons_of_mem hmem
  rw [count_append, count_cons_self, count_eq_zero.mpr hnot] at h
  rw [asPathText_append]
  cases n with
  | zero => exact ⟨before, digits as, after, rfl, rfl⟩
  | succ n =>
    -- The other occurrences are in the rest of the path, after the separator.
    have hcount : n + 1 ≤ after.count as := by omega
    obtain ⟨before', u, after', htext, hu⟩ := asJoin_of_count as n hcount
    have hne : after ≠ [] := by
      rintro rfl
      simp at h
    obtain ⟨b, rest, rfl⟩ := exists_cons_of_ne_nil hne
    refine ⟨before, digits as ++ (' ' :: textBefore before' ++ u), after', ?_,
      digits as, _, rfl, rfl, ' ' :: textBefore before', u, rfl, ?_, hu⟩
    · rw [textAfter, htext]
      · simp
      · simp
    · cases before' with
      | nil => exact .inr rfl
      | cons c before' =>
        refine .inl ⟨[' '], _, rfl, rfl, asPathText (c :: before'), [' '], rfl, ?_, rfl⟩
        exact newline_not_mem_asPathText _

/-- **The pattern counts occurrences.** -/
theorem asOccurrences_match (as n : Nat) (path : List Nat) :
    (asOccurrences as (n + 1)).fullMatch (asPathText path) = true ↔ n < path.count as := by
  rw [fullMatch_iff]
  constructor
  · rintro ⟨x, _, htext, hx, u, v, rfl, hu, hv⟩
    have hspaced : Spaced v := by
      rcases hv with rfl | ⟨_, w, rfl, rfl, -⟩
      · exact .inl rfl
      · exact .inr ⟨w, rfl⟩
    have hcount := asJoin_count as n hu hspaced
    -- What stands before the first AS of the match adds to the count only.
    have hle : n + 1 ≤ ((asPathText path).splitOn ' ').count (digits as) := by
      rw [htext]
      rcases hx with rfl | ⟨d, _, rfl, -, rfl⟩
      · exact hcount
      · rw [append_assoc, singleton_append, splitOn_space, count_append]
        omega
    by_cases hnil : path = []
    · rw [hnil, show asPathText [] = [] from rfl] at hle
      have hword : digits as ∉ [([] : List Char)] := by
        rw [mem_singleton]
        exact toDigits_ne_nil
      rw [show splitOn ' ' ([] : List Char) = [[]] by rfl, count_eq_zero.mpr hword] at hle
      omega
    · grind [splitOn_asPathText, count_map_of_injective, digits_injective]
  · intro h
    obtain ⟨before, u, after, htext, hu⟩ := asJoin_of_count as n h
    refine ⟨textBefore before, _, htext, ?_, u, textAfter after, rfl, hu, ?_⟩
    · cases before with
      | nil => exact .inl rfl
      | cons b before => exact .inr ⟨_, [' '], rfl, newline_not_mem_asPathText _, rfl⟩
    · cases after with
      | nil => exact .inl rfl
      | cons b after => exact .inr ⟨[' '], _, rfl, rfl, newline_not_mem_asPathText _⟩

/-- **Occurrences in a path of 32-bit AS numbers**: the text that the source builds for at least
    `n + 1` occurrences matches the text of a path when the AS is in it that often. -/
theorem asOccurrences_counts (as : UInt32) (n : Nat) (path : List UInt32) :
    '^' :: (asOccurrences as.toNat (n + 1)).text ++ ['$'] =
      "^(.* )?".toList ++
        "( .* | )".toList.intercalate (List.replicate (n + 1) (digits as.toNat)) ++
        "( .*)?$".toList ∧
    ((asOccurrences as.toNat (n + 1)).fullMatch (asPathText (path.map UInt32.toNat)) = true ↔
      n + 1 ≤ path.count as) := by
  refine ⟨asOccurrences_text as.toNat (n + 1), ?_⟩
  have hinj : Function.Injective UInt32.toNat := fun _ _ h => UInt32.toNat_inj.mp h
  rw [asOccurrences_match, count_map_of_injective _ _ hinj]
  exact Nat.lt_iff_add_one_le

end Booty.Gobgp
