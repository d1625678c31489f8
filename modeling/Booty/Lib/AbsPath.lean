import Booty.Lib.GoPath
import Booty.Lib.Text

namespace Booty.Lib

open List

/-!
# Absolute paths and their elements

* `elements` — the elements that an absolute path leads through, without links.
* `pathText` — the text of a list of elements.
* `elements_pathText`, `clean_eq_pathText` — the two go together.
* `pathText_below_iff` — a path below another starts with its text and a `/`.
-/

/-- A name in a directory. -/
def IsName (e : List Char) : Prop := e ≠ [] ∧ e ≠ ['.'] ∧ e ≠ ['.', '.'] ∧ '/' ∉ e

instance (e : List Char) : Decidable (IsName e) :=
  inferInstanceAs (Decidable (e ≠ [] ∧ e ≠ ['.'] ∧ e ≠ ['.', '.'] ∧ '/' ∉ e))

/-- The elements of an absolute path. -/
def elements (path : String) : List (List Char) :=
  ((path.toList.splitOn '/').foldl (cleanStep true) []).reverse

/-- Each element after a `/`. -/
def slashed (es : List (List Char)) : List Char := es.flatMap ('/' :: ·)

/-- The text of a path. -/
def pathText (es : List (List Char)) : String :=
  if es = [] then "/" else String.ofList (slashed es)

variable {e : List Char} {es fs : List (List Char)}

@[simp] theorem slashed_cons : slashed (e :: es) = '/' :: e ++ slashed es := rfl

theorem slashed_eq_intercalate (h : es ≠ []) : slashed es = '/' :: ['/'].intercalate es := by
  induction es with
  | nil => exact absurd rfl h
  | cons e es ih =>
    cases es with
    | nil => simp [slashed]
    | cons f fs => simp_all

variable {path : String}

/-- `filepath.Clean` of an absolute path joins its elements. -/
theorem clean_eq_pathText (h : isAbs path = true) : clean path = pathText (elements path) := by
  unfold clean pathText elements
  rw [h]
  rw [if_pos rfl]
  split_ifs with hnil
  · rw [hnil]
    rfl
  · rw [slashed_eq_intercalate hnil]

/-! ### The elements of a text -/

variable {done : List (List Char)}

/-- A name stays. -/
theorem cleanStep_name (h : IsName e) : cleanStep true done e = e :: done := by
  obtain ⟨hne, hdot, hdots, -⟩ := h
  simp [cleanStep, hne, hdot, hdots]

/-- A path of names is clean. -/
theorem foldl_cleanStep_names (h : ∀ e ∈ es, IsName e) :
    es.foldl (cleanStep true) done = es.reverse ++ done := by
  induction es generalizing done with
  | nil => rfl
  | cons e es ih =>
    grind [cleanStep_name]

/-- The elements of a joined path. -/
theorem splitOn_append_slashed (he : '/' ∉ e) (h : ∀ e ∈ es, IsName e) :
    (e ++ slashed es).splitOn '/' = e :: es := by
  have hsep : ∀ (f : List Char), '/' ∉ f → ∀ c ∈ f, (c == '/') = false := by
    intro f hf c hc
    rw [beq_eq_false_iff_ne]
    exact fun heq => hf (heq ▸ hc)
  induction es generalizing e with
  | nil =>
    rw [slashed, flatMap_nil, append_nil, List.splitOn, splitOnP_eq_singleton (hsep e he)]
  | cons f fs ih =>
    have hf : '/' ∉ f := (h f mem_cons_self).2.2.2
    have hrest := ih hf fun g hg => h g (mem_cons_of_mem _ hg)
    rw [slashed_cons, cons_append, List.splitOn,
      splitOnP_append_cons_of_forall_mem (hsep e he) _ (by simp), ← splitOn, hrest]

/-- A path of names is read back. -/
theorem elements_pathText (h : ∀ e ∈ es, IsName e) : elements (pathText es) = es := by
  unfold pathText
  split_ifs with hnil
  · rw [hnil]
    decide
  · unfold elements
    have hsplit : (slashed es).splitOn '/' = [] :: es := splitOn_append_slashed not_mem_nil h
    rw [String.toList_ofList, hsplit, foldl_cons]
    have hempty : cleanStep true [] [] = [] := rfl
    rw [hempty, foldl_cleanStep_names h]
    simp

variable {P : List Char → Prop} {rooted : Bool}

/-- What holds of the elements so far, and of a new one, holds after a step of the cleaning. -/
theorem forall_cleanStep (hdone : ∀ f ∈ done, P f) (he : e ≠ [] → e ≠ ['.'] → e ≠ ['.', '.'] → P e)
    (hdots : rooted = false → P ['.', '.']) : ∀ f ∈ cleanStep rooted done e, P f := by
  by_cases hskip : e = [] ∨ e = ['.']
  · aesop
  by_cases hup : e = ['.', '.']
  · unfold cleanStep
    grind
  · unfold cleanStep
    rw [if_neg hskip, if_neg hup]
    rw [not_or] at hskip
    exact forall_mem_cons.mpr ⟨he hskip.1 hskip.2 hup, hdone⟩

/-- What holds of the elements holds of the clean ones. -/
theorem forall_foldl_cleanStep {l : List (List Char)}
    (hdone : ∀ f ∈ done, P f) (hl : ∀ e ∈ l, e ≠ [] → e ≠ ['.'] → e ≠ ['.', '.'] → P e)
    (hdots : rooted = false → P ['.', '.']) : ∀ f ∈ l.foldl (cleanStep rooted) done, P f := by
  exact foldlRecOn (motive := (∀ f ∈ ·, P f)) l _ hdone fun _ h e he =>
    forall_cleanStep h (hl e he) hdots

/-- An element has no slash. -/
theorem not_mem_of_mem_splitOn {α : Type} [DecidableEq α] {a : α} {xs l : List α}
    (h : l ∈ xs.splitOn a) : a ∉ l := fun ha => by simpa using not_of_mem_splitOnP h a ha

/-- The elements of a path are names. -/
theorem isName_elements : ∀ e ∈ elements path, IsName e := by
  intro e he
  refine forall_foldl_cleanStep (fun f hf => absurd hf not_mem_nil) ?_ ?_ e (mem_reverse.mp he)
  · exact fun f hf hne hdot hdots => ⟨hne, hdot, hdots, not_mem_of_mem_splitOn hf⟩
  · exact nofun

/-- A relative path stays relative. -/
theorem isAbs_of_isAbs_clean (h : isAbs (clean path) = true) : isAbs path = true := by
  by_contra hrel
  rw [Bool.not_eq_true] at hrel
  have hparts : ∀ f ∈ (path.toList.splitOn '/').foldl (cleanStep false) [], f ≠ [] ∧ '/' ∉ f :=
    forall_foldl_cleanStep (fun f hf => absurd hf not_mem_nil)
      (fun f hf hne _ _ => ⟨hne, not_mem_of_mem_splitOn hf⟩) fun _ => by decide
  unfold clean at h
  rw [hrel] at h
  simp only [Bool.false_eq_true, if_false] at h
  generalize (path.toList.splitOn '/').foldl (cleanStep false) [] = done at h hparts
  split_ifs at h with hnil
  · exact absurd h (by decide)
  · obtain ⟨e, es, hrev⟩ := exists_cons_of_ne_nil (reverse_ne_nil_iff.mpr hnil)
    obtain ⟨hne, hslash⟩ := hparts e (mem_reverse.mp (hrev ▸ mem_cons_self))
    obtain ⟨c, cs, rfl⟩ := exists_cons_of_ne_nil hne
    rw [hrev] at h
    -- the text begins with the first character of the first element
    have hhead : (['/'].intercalate ((c :: cs) :: es)).head? = some c := by
      cases es <;> simp
    rw [isAbs, String.toList_ofList, hhead, decide_eq_true_eq, Option.some.injEq] at h
    exact hslash (h ▸ mem_cons_self)

/-! ### Paths below a path -/

/-- Texts without a `/` in front of one. -/
theorem append_slash_isPrefix {e f r r' : List Char} (he : '/' ∉ e) (hf : '/' ∉ f) :
    e ++ '/' :: r <+: f ++ '/' :: r' ↔ e = f ∧ r <+: r' := by
  induction e generalizing f with
  | nil =>
    cases f with
    | nil => simp
    | cons c f => grind
  | cons c e ih =>
    have hc : c ≠ '/' := fun h => he (h ▸ mem_cons_self)
    cases f with
    | nil => simp [hc]
    | cons d f => grind

/-- Two texts of elements agree up to a `/` only if the elements do. -/
theorem slashed_isPrefix_iff (he : ∀ e ∈ es, IsName e) (hf : ∀ f ∈ fs, IsName f) :
    slashed es ++ ['/'] <+: slashed fs ++ ['/'] ↔ es <+: fs := by
  -- a `/` follows every element, so each text begins with one
  have hhead : ∀ gs : List (List Char), ∃ r, slashed gs ++ ['/'] = '/' :: r := by
    intro gs
    cases gs with
    | nil => exact ⟨[], rfl⟩
    | cons g gs => exact ⟨_, rfl⟩
  induction es generalizing fs with
  | nil =>
    obtain ⟨r, hr⟩ := hhead fs
    rw [hr]
    simp [slashed]
  | cons e es ih =>
    cases fs with
    | nil =>
      refine iff_of_false (fun h => ?_) (by simp)
      have hlen := h.length_le
      have hnil : slashed [] = [] := rfl
      rw [slashed_cons, hnil] at hlen
      simp only [length_append, length_cons, length_nil] at hlen
      omega
    | cons f fs =>
      obtain ⟨r, hr⟩ := hhead es
      obtain ⟨r', hr'⟩ := hhead fs
      have hrest := ih (fun g hg => he g (mem_cons_of_mem _ hg))
        fun g hg => hf g (mem_cons_of_mem _ hg)
      rw [hr, hr'] at hrest
      rw [slashed_cons, slashed_cons, cons_append, cons_append, cons_append,
        cons_append, append_assoc, append_assoc, hr, hr', cons_prefix_cons,
        append_slash_isPrefix (he e mem_cons_self).2.2.2 (hf f mem_cons_self).2.2.2]
      simpa using fun _ => hrest

/-- **Below.** A path is at or below another exactly if its text is, up to a `/`. -/
theorem pathText_below_iff (hne : es ≠ []) (he : ∀ e ∈ es, IsName e) (hf : ∀ f ∈ fs, IsName f) :
    (pathText fs = pathText es ∨ (pathText es).toList ++ ['/'] <+: (pathText fs).toList) ↔
      es <+: fs := by
  have htext : ∀ gs : List (List Char), gs ≠ [] → pathText gs = String.ofList (slashed gs) :=
    fun gs hgs => if_neg hgs
  rw [htext es hne, String.toList_ofList]
  by_cases hfs : fs = []
  · -- the root directory is below no other path
    subst hfs
    have hroot : pathText [] = "/" := rfl
    rw [hroot]
    refine iff_of_false ?_ (by simpa using hne)
    obtain ⟨e, es', rfl⟩ := exists_cons_of_ne_nil hne
    have hpos : 0 < e.length := length_pos_iff.mpr (he e mem_cons_self).1
    have hlen : 1 < (slashed (e :: es')).length := by
      rw [slashed_cons]
      simp only [length_append, length_cons]
      omega
    rintro (heq | hpre)
    · have htoList : "/".toList = slashed (e :: es') := heq ▸ String.toList_ofList
      rw [← htoList] at hlen
      exact absurd hlen (by decide)
    · simp_all
  · rw [htext fs hfs, String.toList_ofList, ← slashed_isPrefix_iff he hf, prefix_concat_iff,
      append_left_inj, String.ofList_inj]
    exact or_congr eq_comm Iff.rfl

end Booty.Lib
