import Booty.Disk.Unmount

namespace Booty.Disk

open Booty.Lib List Mounted

/-!
# What a release leaves mounted

* `Tidy` — every mount at or below the root is named by its own line, and no later mount is at its
  path or above it.
* `TidyWritable` — the same for the block device file systems that can be written: the last line
  that names their path has a source below `/dev/`.
* `Kernel.release_leaves` — an unmount without an error leaves nothing exactly in a tidy table, if
  no line names the path of another mount; every release without an error leaves nothing writable
  exactly in such a table, if no two mounts are of one file system.
-/

/-- At or below the root, as the code takes it. -/
def Below (root : String) (m : Mounted) : Prop := elements (Kernel.cleanRoot root) <+: m.point

/-- Nothing is mounted at or below the root. -/
def Clear (root : String) (t : List Mounted) : Prop := ∀ m ∈ t, ¬ Below root m

/-- The mounts below a root can all be found by their lines and are not covered. -/
structure Tidy (root : String) (t : List Mounted) : Prop where
  named : ∀ m ∈ t, Below root m → m.target = some m.path
  uncovered : Uncovered Mounted.point (Below root) t

/-- A line that names the path of a mount is the line of a mount there, and names it by its text. -/
def NoAlias (t : List Mounted) : Prop :=
  ∀ m ∈ t, ∀ f, m.target = some f → ∀ y ∈ t, elements f = y.point →
    m.point = y.point ∧ f = y.path

/-- No two mounts are of one file system, so that each is made read-only by itself. -/
def Apart (t : List Mounted) : Prop := (t.map Mounted.fs).Nodup

/-- The last line that names a path. -/
def lastLine (t : List Mounted) (f : String) : Option Mounted :=
  t.reverse.find? fun y => y.target = some f

/-- The mounts below a root that can be written have lines that name a device below `/dev/`, and are
    not covered. -/
structure TidyWritable (root : String) (t : List Mounted) : Prop where
  sources : ∀ m ∈ t, Below root m → m.Writable →
    ∃ source ∈ (lastLine t m.path).bind sourceField, "/dev/".toList <+: source.toList
  uncovered : Uncovered Mounted.point (fun m => Below root m ∧ m.Writable) t

/-- Every release that succeeds leaves no block device file system writable. -/
def ReleasesAll (root : String) (t : List Mounted) : Prop :=
  ∀ (k : Kernel) report t', k.unmountOrRemountReadOnly root t = (report, none, t') →
    ∀ m ∈ t', Below root m → ¬ m.Writable

variable {root f : String} {t t' : List Mounted} {m x : Mounted}

theorem Below.congr {y : Mounted} (h : Below root m) (hpoint : y.point = m.point) :
    Below root y := by
  unfold Below at h ⊢
  rwa [hpoint]

/-! ### The targets -/

theorem Mounted.not_mem_line (m : Mounted) : '\n' ∉ m.line := by
  have hsource : sourceSpecial '\n' = true := by decide
  have hmangle : ∀ s : String, '\n' ∉ (mangle s).toList := fun s => by
    simp [mangle, not_mem_octalEscape, hsource]
  have hspecial : pathSpecial '\n' = true := by decide
  have hpath : ∀ s : String, '\n' ∉ (escapePath s).toList := fun s => by
    simp [escapePath, not_mem_octalEscape, hspecial]
  unfold line
  simp only [mem_append, mem_cons, not_or]
  exact ⟨⟨⟨⟨hmangle _, by decide, hpath _⟩, by decide, hmangle _⟩, by decide, m.oneLine⟩,
    by decide⟩

theorem splitOn_mountsFile (t : List Mounted) :
    (mountsFile t).splitOn '\n' = t.map line ++ [[]] := by
  refine splitOn_textOf fun l hl => ?_
  obtain ⟨m, -, rfl⟩ := mem_map.mp hl
  exact m.not_mem_line

namespace Kernel

variable {k : Kernel} {targets : List String}

section Targets

variable (h : k.mountedSubpathsFrom root (mountsFile t) = .ok targets)

include h

/-- The root is a path with at least one element. -/
theorem cleanRoot_spec :
    elements (cleanRoot root) ≠ [] ∧ cleanRoot root = pathText (elements (cleanRoot root)) := by
  unfold mountedSubpathsFrom at h
  split_ifs at h with hroot
  simp only [not_or, Bool.not_eq_false] at hroot
  obtain ⟨-, hslash, habs⟩ := hroot
  have hclean : cleanRoot root = pathText (elements (trimFields root.toList)) :=
    clean_eq_pathText (isAbs_of_isAbs_clean habs)
  have helements : elements (cleanRoot root) = elements (trimFields root.toList) := by
    rw [hclean, elements_pathText isName_elements]
  rw [helements]
  refine ⟨fun hnil => hslash ?_, hclean⟩
  rw [hclean, hnil]
  rfl

theorem mem_targets :
    f ∈ targets ↔ (∃ m ∈ t, m.target = some f) ∧
      (f = cleanRoot root ∨ (cleanRoot root).toList ++ ['/'] <+: f.toList) := by
  unfold mountedSubpathsFrom at h
  split_ifs at h
  cases h
  have hempty : (fields [])[1]? = none := by decide
  rw [mem_sortBy, (k.iterate_perm _).mem_iff, seenBelow, splitOn_mountsFile]
  simp [target, hempty]

theorem nodup_targets : targets.Nodup := by
  unfold mountedSubpathsFrom at h
  split_ifs at h
  cases h
  exact ((sortBy_perm _ _).trans (k.iterate_perm _)).nodup_iff.mpr (nodup_dedup _)

theorem sorted_targets : targets.Pairwise fun a b => b.toList.length ≤ a.toList.length := by
  unfold mountedSubpathsFrom at h
  split_ifs at h
  cases h
  refine (sortBy_pairwise _ _).imp fun hab => ?_
  omega

/-- The path of a mount below the root is a target exactly if a line names it. -/
theorem path_mem_targets : m.path ∈ targets ↔ (∃ y ∈ t, y.target = some m.path) ∧ Below root m := by
  obtain ⟨hne, hroot⟩ := cleanRoot_spec h
  rw [mem_targets h]
  refine and_congr_right fun _ => ?_
  have hbelow := pathText_below_iff hne isName_elements m.names
  rw [← hroot] at hbelow
  exact hbelow

end Targets

/-! ### The loop -/

section

variable {R : Type} {step : List Mounted → String → R × List Mounted} {I W : List Mounted → Prop}
  {G : R → Prop}

/-- **Invariant.** -/
theorem each_invariant (hstep : ∀ u, I u → ∀ f ∈ targets, I (step u f).2) (ht : I t) :
    I (each step targets t).2 := by
  induction targets generalizing t with
  | nil => exact ht
  | cons f fs ih => aesop

theorem each_append {l l' : List String} :
    (each step (l ++ l') t).2 = (each step l' (each step l t).2).2 := by
  induction l generalizing t with
  | nil => rfl
  | cons f fs ih => exact ih

/-- **Settled.** What the step for one target brings about, and every step keeps, holds at the
    end. -/
theorem each_settles (hI : ∀ u f, I u → I (step u f).2) (hW : ∀ u f, W u → W (step u f).2)
    (hset : ∀ u, I u → G (step u f).1 → W (step u f).2) (ht : I t) (hmem : f ∈ targets)
    (hgood : ∀ r ∈ (each step targets t).1, G r.2) : W (each step targets t).2 := by
  induction targets generalizing t with
  | nil => exact absurd hmem not_mem_nil
  | cons g gs ih =>
    obtain ⟨hfirst, hrest⟩ := forall_mem_cons.mp hgood
    rcases mem_cons.mp hmem with rfl | hmem
    · show W (each step gs (step t f).2).2
      exact each_invariant (fun u hu f' _ => hW u f' hu) (hset t ht hfirst)
    · exact ih (hI t g ht) hmem hrest

/-- What every step results in, the loop results in. -/
theorem each_results (hG : ∀ u f, G (step u f).1) : ∀ r ∈ (each step targets t).1, G r.2 := by
  induction targets generalizing t with
  | nil => exact fun r hr => absurd hr not_mem_nil
  | cons f fs ih => exact forall_mem_cons.mpr ⟨hG t f, ih⟩

end

theorem joinErrors_eq_none {errs : List String} : joinErrors errs = none ↔ errs = [] := by
  unfold joinErrors
  split_ifs with h <;> simp [h]

/-! ### One unmount -/

/-- **Unmount.** It takes away the mount that the path leads to, or nothing. -/
theorem unmount_ok (h : k.unmount t f = .ok t') :
    ∃ pre m post, reached point t (elements f) = some (pre, m, post) ∧ t' = pre ++ post := by
  unfold unmount at h
  cases hreach : reached point t (elements f) with
  | none => simp [hreach] at h
  | some r => grind

theorem unmount_sublist (h : k.unmount t f = .ok t') : t'.Sublist t := by
  obtain ⟨pre, m, post, hreach, rfl⟩ := unmount_ok h
  obtain ⟨rfl, -, -⟩ := reached_eq_some.mp hreach
  exact (Sublist.refl pre).append (sublist_cons_self m post)

/-- A path that leads to a mount is never taken as a missing one. -/
theorem unmount_error {e : Errno} {r : List Mounted × Mounted × List Mounted}
    (hreach : reached point t (elements f) = some r) (h : k.unmount t f = .error e) :
    e.isGone = false := by
  obtain ⟨pre, m, post⟩ := r
  unfold unmount at h
  simp only [hreach] at h
  split_ifs at h
  · cases h
    rfl
  · split at h
    next refusal _ =>
      cases h
      cases refusal <;> simp [Errno.isGone, Refusal.errno]
    · cases h

theorem elements_path (m : Mounted) : elements m.path = m.point := elements_pathText m.names

theorem unmountStep_sublist (t : List Mounted) (f : String) : (k.unmountStep t f).2.Sublist t := by
  unfold unmountStep
  cases h : k.unmount t f with
  | ok t' => exact unmount_sublist h
  | error e => grind

/-- A step without an error at the path of an uncovered mount leaves nothing there. -/
theorem unmountStep_settles (hm : Below root m) (hcov : Uncovered point (Below root) t)
    (hgood : (k.unmountStep t m.path).1 = none) :
    ∀ y ∈ (k.unmountStep t m.path).2, y.point ≠ m.point := by
  by_cases hex : ∃ y ∈ t, y.point = m.point
  · obtain ⟨y, hy, hpoint⟩ := hex
    have hbelow : Below root y := hm.congr hpoint
    obtain ⟨pre, post, hreach, hothers⟩ := hcov.reached hy hbelow
    rw [hpoint, ← elements_path m] at hreach
    unfold unmountStep at hgood ⊢
    cases h : k.unmount t m.path with
    | ok t' =>
      obtain ⟨pre', y', post', hreach', rfl⟩ := unmount_ok h
      rw [hreach] at hreach'
      cases hreach'
      intro z hz heq
      exact hothers z hz (hm.congr heq) (heq.trans hpoint.symm)
    | error e => simp [h, unmount_error hreach h] at hgood
  · exact fun y hy heq => hex ⟨y, (unmountStep_sublist t m.path).subset hy, heq⟩

/-! ### `UnmountRecursive` -/

theorem unmountRecursive_ok (h : k.unmountRecursive root t = (none, t')) :
    ∃ targets, k.mountedSubpathsFrom root (mountsFile t) = .ok targets ∧
      t' = (each k.unmountStep targets t).2 ∧
      ∀ r ∈ (each k.unmountStep targets t).1, r.2 = none := by
  unfold unmountRecursive at h
  split at h
  · cases h
  · split at h
    · cases h
    next targets htargets =>
      rw [Prod.mk.injEq, joinErrors_eq_none] at h
      refine ⟨targets, htargets, h.2.symm, fun r hr => ?_⟩
      exact filterMap_eq_nil_iff.mp h.1 r hr

theorem each_unmountStep_sublist : (each k.unmountStep targets t).2.Sublist t :=
  each_invariant (I := fun u => u.Sublist t)
    (fun u hu f _ => (unmountStep_sublist u f).trans hu) (Sublist.refl t)

/-- **Tidy tables are cleared.** -/
theorem clear_of_tidy (h : k.unmountRecursive root t = (none, t')) (htidy : Tidy root t) :
    Clear root t' := by
  obtain ⟨targets, htargets, rfl, hgood⟩ := unmountRecursive_ok h
  intro m hm hbelow
  have hmt : m ∈ t := each_unmountStep_sublist.subset hm
  have hmem : m.path ∈ targets :=
    (path_mem_targets htargets).mpr ⟨⟨m, hmt, htidy.named m hmt hbelow⟩, hbelow⟩
  have hgone : ∀ y ∈ (each k.unmountStep targets t).2, y.point ≠ m.point := by
    refine each_settles (I := Uncovered point (Below root)) (f := m.path)
      (W := fun u => ∀ y ∈ u, y.point ≠ m.point) (G := fun r => r = none) ?_ ?_ ?_
      htidy.uncovered hmem hgood
    · exact fun u f hu => hu.sublist (unmountStep_sublist u f)
    · grind [unmountStep_sublist]
    · exact fun u hu => unmountStep_settles hbelow hu
  exact hgone m hm rfl

/-! ### Tables that are not tidy -/

section Stays

variable {R : Type} {step : List Mounted → String → R × List Mounted} {I : List Mounted → Prop}

/-- A step takes away the mount that the path leads to, or changes mounts in their places, but `m`
    only if the path leads to it. -/
def Acts (step : List Mounted → String → R × List Mounted) (m : Mounted) (u : List Mounted)
    (f : String) : Prop :=
  (∃ φ : Mounted → Mounted, (∀ y, (φ y).point = y.point) ∧ (step u f).2 = u.map φ ∧
    (φ m = m ∨ ∃ pre post, reached point u (elements f) = some (pre, m, post) ∧ m ∉ pre)) ∨
  ∃ pre y post, reached point u (elements f) = some (pre, y, post) ∧ (step u f).2 = pre ++ post

/-- A later mount, or what a step made of it, is at the path of `x`. -/
def Over (m x : Mounted) (u : List Mounted) : Prop :=
  ∃ x' : Mounted, x'.point = x.point ∧ [m, x'].Sublist u

theorem Over.mem {u : List Mounted} (h : Over m x u) : m ∈ u := by
  obtain ⟨x', -, hsub⟩ := h
  exact hsub.subset mem_cons_self

/-- A step at another path keeps a mount. -/
theorem Acts.mem {u : List Mounted} (h : Acts step m u f) (hm : m ∈ u)
    (hne : m.point ≠ elements f) : m ∈ (step u f).2 := by
  obtain ⟨φ, -, hmap, hself | ⟨pre, post, hreach, -⟩⟩ | ⟨pre, y, post, hreach, hrest⟩ := h
  · rw [hmap]
    exact mem_map.mpr ⟨m, hm, hself⟩
  · exact absurd (reached_eq_some.mp hreach).2.1 hne
  · rw [hrest]
    obtain ⟨rfl, hy, -⟩ := reached_eq_some.mp hreach
    grind

/-- A step at another path keeps two mounts in their order. -/
theorem Acts.over {u : List Mounted} (h : Acts step m u f) (hover : Over m x u)
    (hne : m.point ≠ elements f) (hx : x.point ≠ elements f) : Over m x (step u f).2 := by
  obtain ⟨x', hpoint, hsub⟩ := hover
  obtain ⟨φ, hφ, hmap, hself | ⟨pre, post, hreach, -⟩⟩ | ⟨pre, y, post, hreach, hrest⟩ := h
  · refine ⟨φ x', (hφ x').trans hpoint, ?_⟩
    have hsub' := hsub.map φ
    rwa [map_cons, map_cons, hself, ← hmap] at hsub'
  · exact absurd (reached_eq_some.mp hreach).2.1 hne
  · refine ⟨x', hpoint, hrest ▸ sublist_of_reached hsub ?_ hreach⟩
    simp [hne, hpoint, hx]

/-- A step at the path of a covered mount keeps it. -/
theorem Acts.mem_covered {u : List Mounted} (h : Acts step m u f) (hover : Over m x u)
    (hcover : x.point <+: m.point) (hpath : elements f = m.point) : m ∈ (step u f).2 := by
  obtain ⟨x', hpoint, hsub⟩ := hover
  have hpre : ∀ {pre y post}, reached point u (elements f) = some (pre, y, post) → m ∈ pre :=
    fun hreach => mem_of_reached_covered hsub (hpoint ▸ hcover) (hpath ▸ hreach)
  obtain ⟨φ, -, hmap, hself | ⟨pre, post, hreach, hnot⟩⟩ | ⟨pre, y, post, hreach, hrest⟩ := h
  · rw [hmap]
    exact mem_map.mpr ⟨m, hsub.subset mem_cons_self, hself⟩
  · exact absurd (hpre hreach) hnot
  · rw [hrest]
    exact mem_append_left _ (hpre hreach)

variable (hI : ∀ u f, I u → I (step u f).2) (hacts : ∀ u f, I u → m ∈ u → Acts step m u f)

include hI hacts

/-- A mount that no target leads to stays. -/
theorem mem_of_no_target (ht : I t) (hm : m ∈ t) (hne : ∀ f ∈ targets, m.point ≠ elements f) :
    m ∈ (each step targets t).2 :=
  (each_invariant (I := fun u => I u ∧ m ∈ u) (fun u hu f hf =>
    ⟨hI u f hu.1, (hacts u f hu.1 hu.2).mem hu.2 (hne f hf)⟩) ⟨ht, hm⟩).2

omit hI hacts in
/-- The target that leads to a mount is the text of its path. -/
theorem target_eq_path (hal : NoAlias t) (hm : m ∈ t)
    (h : k.mountedSubpathsFrom root (mountsFile t) = .ok targets) (hf : f ∈ targets)
    (hpath : elements f = m.point) : f = m.path ∧ ∃ y ∈ t, y.target = some f ∧
      y.point = m.point := by
  obtain ⟨⟨y, hy, htarget⟩, -⟩ := (mem_targets h).mp hf
  obtain ⟨hpoint, hf⟩ := hal y hy f htarget m hm hpath
  exact ⟨hf, y, hy, htarget, hpoint⟩

omit hI hacts in
/-- The text of a path is longer than those above it. -/
theorem path_length_lt (hcover : x.point <+: m.point) (hne : x.point ≠ m.point)
    (hx : x.point ≠ []) : x.path.toList.length < m.path.toList.length := by
  have hm : m.point ≠ [] := fun h => hx (prefix_nil.mp (h ▸ hcover))
  obtain ⟨r, hr⟩ := hcover
  have hrne : r ≠ [] := fun h => hne (by rw [← hr, h, append_nil])
  obtain ⟨e, es, rfl⟩ := exists_cons_of_ne_nil hrne
  unfold path pathText
  rw [if_neg hx, if_neg hm, String.toList_ofList, String.toList_ofList, ← hr]
  simp only [slashed, flatMap_append, flatMap_cons, length_append, length_cons]
  omega

/-- **Covered mounts stay.** Their own target comes before those of the mounts above them. -/
theorem covered_stays (ht : I t) (hal : NoAlias t)
    (h : k.mountedSubpathsFrom root (mountsFile t) = .ok targets) (hm : Below root m)
    (hsub : [m, x].Sublist t) (hcover : x.point <+: m.point) :
    m ∈ (each step targets t).2 := by
  have hmt : m ∈ t := hsub.subset mem_cons_self
  by_cases hmem : m.path ∈ targets
  · obtain ⟨before, after, rfl⟩ := append_of_mem hmem
    have hnodup := nodup_targets h
    have hsorted := sorted_targets h
    rw [nodup_middle, nodup_cons] at hnodup
    -- no target before that of `m` leads to `m` or to `x`
    have hbefore : ∀ f ∈ before, ∀ z ∈ [m, x], z.point ≠ elements f := by
      intro f hf z hz hpath
      have hft : f ∈ before ++ m.path :: after := mem_append_left _ hf
      have hzt : z ∈ t := hsub.subset hz
      have hfz := (target_eq_path hal hzt h hft hpath.symm).1
      have hfm : f ≠ m.path := fun heq => hnodup.1 (heq ▸ mem_append_left _ hf)
      have hlen := (pairwise_append.mp hsorted).2.2 f hf m.path mem_cons_self
      have hzx : z = x := by
        rcases mem_cons.mp hz with rfl | hz
        · exact absurd hfz hfm
        · exact mem_singleton.mp hz
      subst hzx
      have hne : z.point ≠ m.point := fun heq => hfm (by rw [hfz, path, heq]; rfl)
      have hz0 : z.point ≠ [] := by
        intro hnil
        -- the root directory is not below the root of the unmount
        have hbelow : Below root z := ((path_mem_targets h).mp (hfz ▸ hft)).2
        unfold Below at hbelow
        rw [hnil] at hbelow
        exact (cleanRoot_spec h).1 (prefix_nil.mp hbelow)
      have hlt := path_length_lt hcover hne hz0
      rw [hfz] at hlen
      omega
    rw [each_append]
    have hkeep : I (each step before t).2 ∧ Over m x (each step before t).2 :=
      each_invariant (I := fun u => I u ∧ Over m x u) (fun u hu f hf => ⟨hI u f hu.1,
        (hacts u f hu.1 hu.2.mem).over hu.2 (hbefore f hf m (by simp)) (hbefore f hf x (by simp))⟩)
        ⟨ht, x, rfl, hsub⟩
    have hstay := (hacts _ m.path hkeep.1 hkeep.2.mem).mem_covered hkeep.2 hcover (elements_path m)
    show m ∈ (each step after (step _ m.path).2).2
    refine mem_of_no_target hI hacts (hI _ _ hkeep.1) hstay fun f hf hpath => ?_
    have hft : f ∈ before ++ m.path :: after := mem_append_right _ (mem_cons_of_mem _ hf)
    have hfm := (target_eq_path hal hmt h hft hpath.symm).1
    exact hnodup.1 (hfm ▸ mem_append_right _ hf)
  · refine mem_of_no_target hI hacts ht hmt fun f hf hpath => ?_
    exact hmem ((target_eq_path hal hmt h hf hpath.symm).1 ▸ hf)

end Stays

theorem unmountStep_acts (m : Mounted) (u : List Mounted) (f : String) :
    Acts k.unmountStep m u f := by
  unfold Acts unmountStep
  cases h : k.unmount u f with
  | ok t' => exact .inr (by grind [unmount_ok])
  | error e =>
    refine .inl ⟨id, fun _ => rfl, ?_, .inl rfl⟩
    dsimp only
    split_ifs <;> simp

/-- **Cleared tables were tidy**, if no line names the path of another mount. -/
theorem tidy_of_clear (h : k.unmountRecursive root t = (none, t')) (hal : NoAlias t)
    (hclear : Clear root t') : Tidy root t := by
  obtain ⟨targets, htargets, rfl, -⟩ := unmountRecursive_ok h
  have hI : ∀ (u : List Mounted) (f : String), True → True := fun _ _ => id
  have huncovered : Uncovered point (Below root) t := by
    refine pairwise_iff_forall_sublist.mpr fun {m x} hsub hm hcover => ?_
    exact hclear _ (covered_stays (I := fun _ => True) hI (fun u f _ _ => unmountStep_acts m u f)
      trivial hal htargets hm hsub hcover) hm
  refine ⟨fun m hm hbelow => ?_, huncovered⟩
  by_contra hnot
  refine hclear m (mem_of_no_target (I := fun _ => True) hI (fun u f _ _ => unmountStep_acts m u f)
    trivial hm fun f hf hpath => ?_) hbelow
  obtain ⟨hfm, y, hy, htarget, hpoint⟩ := target_eq_path hal hm htargets hf hpath.symm
  -- the line that names the path is that of `m`, as no other mount is there
  obtain ⟨pre, post, hreach, hothers⟩ := huncovered.reached hm hbelow
  obtain ⟨rfl, -, -⟩ := reached_eq_some.mp hreach
  have hyb : Below root y := hbelow.congr hpoint
  grind

/-! ### `UnmountOrRemountReadOnly` -/

@[simp] theorem markReadOnly_point (fs : Nat) (m : Mounted) :
    (markReadOnly fs m).point = m.point := by
  unfold markReadOnly
  split_ifs <;> rfl

/-- What can still be written was not marked. -/
theorem writable_of_markReadOnly {fs : Nat} (h : (markReadOnly fs m).Writable) :
    m.Writable ∧ m.fs ≠ fs := by
  unfold markReadOnly at h
  split_ifs at h with hfs
  · exact absurd h.2 (by simp)
  · exact ⟨h, hfs⟩

theorem remountReadOnly_ok (h : k.remountReadOnly t f = .ok t') :
    ∃ pre m post, reached point t (elements f) = some (pre, m, post) ∧
      t' = t.map (markReadOnly m.fs) := by
  unfold remountReadOnly at h
  cases hreach : reached point t (elements f) with
  | none => simp [hreach] at h
  | some r => grind

/-- **Release.** A step takes away the mount that the path leads to, makes its file system
    read-only, or changes nothing. -/
theorem releaseStep_cases (sources : GoMap String String) (t : List Mounted) (f : String) :
    (k.releaseStep sources t f).2 = t ∨ ∃ pre m post,
      reached point t (elements f) = some (pre, m, post) ∧
        ((k.releaseStep sources t f).2 = pre ++ post ∨
          (k.releaseStep sources t f).2 = t.map (markReadOnly m.fs)) := by
  unfold releaseStep
  cases h : k.unmount t f with
  | ok t' =>
    obtain ⟨pre, m, post, hreach, rfl⟩ := unmount_ok h
    exact .inr ⟨pre, m, post, hreach, .inl rfl⟩
  | error e =>
    dsimp only
    split_ifs
    · exact .inl rfl
    · exact .inl rfl
    · cases hre : k.remountReadOnly t f with
      | error rerr => exact .inl rfl
      | ok t' =>
        obtain ⟨pre, m, post, hreach, rfl⟩ := remountReadOnly_ok hre
        exact .inr ⟨pre, m, post, hreach, .inr rfl⟩

/-- What a step leaves: some of the mounts, or all of them with a file system made read-only. -/
theorem releaseStep_leaves (sources : GoMap String String) (t : List Mounted) (f : String) :
    (k.releaseStep sources t f).2.Sublist t ∨
      ∃ fs, (k.releaseStep sources t f).2 = t.map (markReadOnly fs) := by
  obtain h | ⟨pre, m, post, hreach, h | h⟩ := releaseStep_cases (k := k) sources t f
  · exact .inl (by rw [h])
  · obtain ⟨rfl, -, -⟩ := reached_eq_some.mp hreach
    exact .inl (by rw [h]; exact (Sublist.refl pre).append (sublist_cons_self m post))
  · exact .inr ⟨m.fs, h⟩

variable {sources : GoMap String String}

/-- What can be written after a step could be written before it, at the same path. -/
theorem exists_of_releaseStep {y : Mounted}
    (hy : y ∈ (k.releaseStep sources t f).2) (hw : y.Writable) :
    ∃ z ∈ t, z.point = y.point ∧ z.Writable := by
  rcases releaseStep_leaves (k := k) sources t f with hsub | ⟨fs, hmap⟩
  · exact ⟨y, hsub.subset hy, rfl, hw⟩
  · rw [hmap] at hy
    obtain ⟨z, hz, rfl⟩ := mem_map.mp hy
    exact ⟨z, hz, (markReadOnly_point fs z).symm, (writable_of_markReadOnly hw).1⟩

theorem uncovered_releaseStep (h : Uncovered point (fun m => Below root m ∧ m.Writable) t) :
    Uncovered point (fun m => Below root m ∧ m.Writable) (k.releaseStep sources t f).2 := by
  rcases releaseStep_leaves (k := k) sources t f with hsub | ⟨fs, hmap⟩
  · exact Pairwise.sublist hsub h
  · rw [hmap]
    refine pairwise_map.mpr (Pairwise.imp (fun {m x} hmx hm => ?_) h)
    rw [markReadOnly_point, markReadOnly_point]
    exact hmx ⟨hm.1.congr (markReadOnly_point fs m).symm, (writable_of_markReadOnly hm.2).1⟩

/-- A step without an error at the path of an uncovered mount leaves nothing writable there. -/
theorem releaseStep_settles {source : String}
    (hm : Below root m) (hsource : sources.get m.path = some source)
    (hdev : "/dev/".toList <+: source.toList)
    (hcov : Uncovered point (fun m => Below root m ∧ m.Writable) t)
    (hgood : (k.releaseStep sources t m.path).1.err = none) :
    ∀ y ∈ (k.releaseStep sources t m.path).2, y.point = m.point → ¬ y.Writable := by
  intro z hz hpz hwz
  obtain ⟨y, hy, hpy, hwy⟩ := exists_of_releaseStep hz hwz
  have hpoint : y.point = m.point := hpy.trans hpz
  obtain ⟨pre, post, hreach, hothers⟩ := hcov.reached hy ⟨hm.congr hpoint, hwy⟩
  have hsplit := (reached_eq_some.mp hreach).1
  rw [hpoint, ← elements_path m] at hreach
  unfold releaseStep at hgood hz
  cases h : k.unmount t m.path with
  | ok t' =>
    -- `y` was the mount taken away
    obtain ⟨pre', y', post', hreach', rfl⟩ := unmount_ok h
    rw [hreach] at hreach'
    cases hreach'
    rw [h] at hz
    exact hothers z hz ⟨hm.congr hpz, hwz⟩ (hpz.trans hpoint.symm)
  | error e =>
    have hprefix : ("/dev/".toList).isPrefixOf ((sources.get m.path).getD "").toList = true := by
      rw [hsource]
      simpa using hdev
    simp only [h, unmount_error hreach h, hprefix] at hgood hz
    cases hre : k.remountReadOnly t m.path with
    | error rerr => simp [hre, Released.err] at hgood
    | ok t' =>
      -- the file system of `y` was marked, and no other writable mount is there
      obtain ⟨pre', y', post', hreach', rfl⟩ := remountReadOnly_ok hre
      rw [hreach] at hreach'
      cases hreach'
      simp only [hre] at hz
      obtain ⟨z0, hz₀, rfl⟩ := mem_map.mp hz
      obtain ⟨hw0, hfs⟩ := writable_of_markReadOnly hwz
      rw [markReadOnly_point] at hpz
      rw [hsplit] at hz₀
      have hcase : z0 ∈ pre ++ post ∨ z0 = y := by
        simp only [mem_append, mem_cons] at hz₀ ⊢
        tauto
      rcases hcase with hz₀ | rfl
      · exact hothers z0 hz₀ ⟨hm.congr hpz, hw0⟩ (hpz.trans hpoint.symm)
      · exact hfs rfl

/-- The source that is found for a path is that of the last line that names it. -/
theorem get_mountSourcesFrom (t : List Mounted) (f : String) :
    (mountSourcesFrom (mountsFile t)).get f = (lastLine t f).bind sourceField := by
  have hfold : ∀ t : List Mounted,
      ((t.map line).foldl addSource ∅).get f = (lastLine t f).bind sourceField := by
    intro t
    induction t using reverseRecOn with
    | nil => rfl
    | append_singleton t last ih =>
      simp only [map_append, map_cons, map_nil, foldl_append, foldl_cons, foldl_nil, lastLine,
        reverse_append, reverse_cons, reverse_nil, nil_append, singleton_append, find?_cons]
      rw [lastLine] at ih
      unfold addSource target sourceField at *
      rcases hfields : fields last.line with _ | ⟨source, _ | ⟨target, rest⟩⟩
      · simpa using ih
      · simpa using ih
      · by_cases hf : target = f
        · simp [hf, hfields]
        · simpa [hf, GoMap.get_set, Ne.symm hf] using ih
  unfold mountSourcesFrom
  rw [splitOn_mountsFile, foldl_append, foldl_cons, foldl_nil]
  exact hfold t

theorem mem_of_lastLine {y : Mounted} (h : lastLine t f = some y) : y ∈ t ∧ y.target = some f :=
  ⟨mem_reverse.mp (mem_of_find?_eq_some h), by simpa using find?_some h⟩

/-- **Nothing writable stays** in a tidy table. -/
theorem not_writable_of_tidyWritable {report : List (String × Released)}
    (h : k.unmountOrRemountReadOnly root t = (report, none, t')) (htidy : TidyWritable root t) :
    ∀ m ∈ t', Below root m → ¬ m.Writable := by
  unfold unmountOrRemountReadOnly at h
  split at h
  · cases h
  · split at h
    · cases h
    next targets htargets =>
      rw [Prod.mk.injEq, Prod.mk.injEq, joinErrors_eq_none] at h
      obtain ⟨-, hgood, rfl⟩ := h
      rw [filterMap_eq_nil_iff] at hgood
      intro y hy hbelow hw
      -- the mount stems from one of the table, at the same path
      have horigin : ∀ z ∈ (each (k.releaseStep (mountSourcesFrom (mountsFile t))) targets t).2,
          z.Writable → ∃ m ∈ t, m.point = z.point ∧ m.Writable := by
        refine each_invariant (I := fun u => ∀ z ∈ u, z.Writable →
          ∃ m ∈ t, m.point = z.point ∧ m.Writable) (fun u hu f _ z hz hwz => ?_)
          fun z hz hwz => ⟨z, hz, rfl, hwz⟩
        obtain ⟨x, hx, hpx, hwx⟩ := exists_of_releaseStep hz hwz
        obtain ⟨m, hm, hpm, hwm⟩ := hu x hx hwx
        exact ⟨m, hm, hpm.trans hpx, hwm⟩
      obtain ⟨m, hm, hpoint, hwm⟩ := horigin y hy hw
      have hmb : Below root m := hbelow.congr hpoint
      obtain ⟨source, hsource, hdev⟩ := htidy.sources m hm hmb hwm
      obtain ⟨y', hlast, -⟩ := Option.bind_eq_some_iff.mp hsource
      have hmem : m.path ∈ targets :=
        (path_mem_targets htargets).mpr ⟨⟨y', mem_of_lastLine hlast⟩, hmb⟩
      have hsource : (mountSourcesFrom (mountsFile t)).get m.path = some source :=
        (get_mountSourcesFrom t m.path).trans hsource
      have hsettled : ∀ z ∈ (each (k.releaseStep (mountSourcesFrom (mountsFile t))) targets t).2,
          z.point = m.point → ¬ z.Writable := by
        refine each_settles (f := m.path) (W := fun u => ∀ z ∈ u, z.point = m.point → ¬ z.Writable)
          (I := Uncovered point fun m => Below root m ∧ m.Writable)
          (G := fun r => r.err = none) ?_ ?_ ?_ htidy.uncovered hmem hgood
        · exact fun u f hu => uncovered_releaseStep hu
        · intro u f hu z hz hpz hwz
          obtain ⟨x, hx, hpx, hwx⟩ := exists_of_releaseStep hz hwz
          exact hu x hx (hpx.trans hpz) hwx
        · grind [releaseStep_settles]
      exact hsettled y hy hpoint.symm hw

/-! ### Tables that can stay writable -/

/-- A kernel that refuses to unmount some paths, and nothing else. -/
def refusing (p : String → Bool) : Kernel where
  readError := none
  pathExists _ _ := true
  refuses _ f := if p f then some .busy else none
  remountRefuses _ _ := none
  iterate l := l
  iterate_perm l := Perm.refl l
  quote s := s

theorem apart_releaseStep (u : List Mounted) (f : String) (h : Apart u) :
    Apart (k.releaseStep sources u f).2 := by
  rcases releaseStep_leaves (k := k) sources u f with hsub | ⟨fs, hmap⟩
  · exact h.sublist (hsub.map _)
  · have hfs : ∀ m, (markReadOnly fs m).fs = m.fs := fun m => by
      unfold markReadOnly
      split_ifs <;> rfl
    simpa [Apart, hmap, Function.comp_def, hfs] using h

theorem releaseStep_acts (u : List Mounted) (f : String) (hap : Apart u) (hm : m ∈ u) :
    Acts (k.releaseStep sources) m u f := by
  obtain h | ⟨pre, y, post, hreach, h | h⟩ := releaseStep_cases (k := k) sources u f
  · exact .inl ⟨id, fun _ => rfl, by rw [h, map_id], .inl rfl⟩
  · exact .inr ⟨pre, y, post, hreach, h⟩
  · refine .inl ⟨_, markReadOnly_point y.fs, h, ?_⟩
    by_cases hfs : m.fs = y.fs
    · -- The mount of the file system is the one that the path leads to.
      obtain ⟨rfl, -, -⟩ := reached_eq_some.mp hreach
      unfold Apart at hap
      rw [map_append, map_cons, nodup_middle, nodup_cons, ← map_append] at hap
      have hnot : m ∉ pre ++ post := fun hmem => hap.1 (hfs ▸ mem_map_of_mem hmem)
      obtain rfl : m = y := by grind
      exact .inr ⟨pre, post, hreach, fun hmem => hnot (mem_append_left _ hmem)⟩
    · exact .inl (if_neg hfs)

/-- Such a kernel leads to no error. -/
theorem releaseStep_refusing (p : String → Bool) (u : List Mounted) (f : String) :
    ((refusing p).releaseStep sources u f).1.err = none := by
  unfold releaseStep
  cases h : (refusing p).unmount u f with
  | ok t' => rfl
  | error e =>
    dsimp only
    split_ifs with hgone
    · rfl
    · rfl
    · cases hreach : reached point u (elements f) with
      | none =>
        unfold unmount at h
        simp only [hreach] at h
        cases h
        exact absurd rfl hgone
      | some r => simp [remountReadOnly, hreach, refusing, Released.err]

/-- A busy mount without a source below `/dev/` is left alone. -/
theorem releaseStep_refused {p : String → Bool} {u : List Mounted} (hp : p f = true)
    (hsource : ¬ "/dev/".toList <+: ((sources.get f).getD "").toList) :
    ((refusing p).releaseStep sources u f).2 = u := by
  have hdev : "/dev/".toList.isPrefixOf ((sources.get f).getD "").toList = false := by
    simpa only [← isPrefixOf_iff_prefix, Bool.not_eq_true] using hsource
  obtain ⟨e, he⟩ : ∃ e, (refusing p).unmount u f = .error e := by
    unfold unmount
    simp only [show (refusing p).refuses u f = some .busy from if_pos hp]
    split
    · exact ⟨_, rfl⟩
    · split_ifs <;> exact ⟨_, rfl⟩
  unfold releaseStep
  simp only [he, hdev, Bool.not_false, if_true]
  split_ifs <;> rfl

/-- **Tables that are not tidy**: a kernel that refuses one mount or none leaves it writable. -/
theorem tidyWritable_of_releasesAll (hroot : ¬ Refused root) (hal : NoAlias t) (hap : Apart t)
    (hall : ReleasesAll root t) : TidyWritable root t := by
  have hgone : ∀ p, ∃ targets, (refusing p).mountedSubpathsFrom root (mountsFile t) = .ok targets ∧
      ∀ m ∈ (each ((refusing p).releaseStep (mountSourcesFrom (mountsFile t))) targets t).2,
        Below root m → ¬ m.Writable := by
    intro p
    obtain ⟨targets, htargets⟩ :
        ∃ targets, (refusing p).mountedSubpathsFrom root (mountsFile t) = .ok targets :=
      ⟨_, if_neg hroot⟩
    let run := each ((refusing p).releaseStep (mountSourcesFrom (mountsFile t))) targets t
    refine ⟨targets, htargets, hall (refusing p) run.1 run.2 ?_⟩
    unfold unmountOrRemountReadOnly
    simp only [show (refusing p).readError = none from rfl, htargets]
    rw [joinErrors_eq_none.mpr]
    exact filterMap_eq_nil_iff.mpr
      (each_results (G := fun r : Released => r.err = none) (releaseStep_refusing p))
  refine ⟨fun m hm hbelow hw => ?_, ?_⟩
  · -- The mount is busy, and its source is not below `/dev/`.
    by_contra hnot
    obtain ⟨targets, htargets, hleft⟩ := hgone (fun f => f = m.path)
    refine hleft m ?_ hbelow hw
    refine (each_invariant (I := fun u => Apart u ∧ m ∈ u) (fun u hu f hf =>
      ⟨apart_releaseStep u f hu.1, ?_⟩) ⟨hap, hm⟩).2
    by_cases hpath : m.point = elements f
    · obtain ⟨rfl, -⟩ := target_eq_path hal hm htargets hf hpath.symm
      rw [releaseStep_refused (decide_eq_true rfl) fun hdev => hnot ?_]
      · exact hu.2
      · rw [get_mountSourcesFrom] at hdev
        cases hsource : (lastLine t m.path).bind sourceField with
        | none => exact absurd hdev (by rw [hsource]; decide)
        | some source => exact ⟨source, rfl, by simpa [hsource] using hdev⟩
    · exact (releaseStep_acts u f hu.1 hu.2).mem hu.2 hpath
  · obtain ⟨targets, htargets, hleft⟩ := hgone fun _ => false
    refine pairwise_iff_forall_sublist.mpr fun {m x} hsub hm hcover => ?_
    exact hleft m (covered_stays apart_releaseStep (fun u f => releaseStep_acts u f) hap hal
      htargets
      hm.1 hsub hcover) hm.1 hm.2

/-! ### Before a new attempt -/

/-- A table stays tidy when mounts go. -/
theorem tidy_sublist (h : Tidy root t) (hsub : t'.Sublist t) : Tidy root t' :=
  ⟨fun m hm => h.named m (hsub.subset hm), h.uncovered.sublist hsub⟩

theorem unmountShared_sublist (t : List Mounted) (f : String) :
    (k.unmountShared t f).2.Sublist t := by
  unfold unmountShared
  split_ifs
  · exact Sublist.refl t
  · cases h : k.unmount t f with
    | ok t' => exact unmount_sublist h
    | error e => exact Sublist.refl t

/-- **A tidy target is released** before a new attempt. -/
theorem clear_of_stale {shared kept : List String}
    (h : k.releaseStaleTargetMounts t shared = (none, kept, t')) (htidy : Tidy newroot t) :
    Clear newroot t' := by
  unfold releaseStaleTargetMounts at h
  split at h
  · cases h
  next hrun =>
    cases h
    refine clear_of_tidy hrun (tidy_sublist htidy ?_)
    exact each_invariant (I := fun u => u.Sublist t)
      (fun u hu f _ => (unmountShared_sublist u f).trans hu) (Sublist.refl t)

/-- **What a release leaves.** -/
theorem release_leaves (root : String) (t : List Mounted) :
    (∀ (k : Kernel) t', k.unmountRecursive root t = (none, t') →
      (Tidy root t → Clear root t') ∧ (NoAlias t → Clear root t' → Tidy root t)) ∧
    (TidyWritable root t → ReleasesAll root t) ∧
    (¬ Refused root → NoAlias t → Apart t → ReleasesAll root t → TidyWritable root t) ∧
    ∀ (k : Kernel) shared kept t', k.releaseStaleTargetMounts t shared = (none, kept, t') →
      Tidy newroot t → Clear newroot t' :=
  ⟨fun _ _ h => ⟨clear_of_tidy h, tidy_of_clear h⟩,
    fun htidy _ _ _ h => not_writable_of_tidyWritable h htidy, tidyWritable_of_releasesAll,
    fun _ _ _ _ => clear_of_stale⟩

end Kernel

/-! ### Runs -/

/-- A kernel that refuses nothing. -/
def willingKernel : Kernel := .refusing fun _ => false

/-- An `ext4` file system of a disk, mounted writable. -/
def diskMount (source : String) (point : List (List Char)) (fs : Nat)
    (names : ∀ e ∈ point, IsName e) : Mounted :=
  ⟨source, point, "ext4", "rw", fs, true, false, names, by decide⟩

/-- The root file system of the target. -/
def targetRoot : Mounted := diskMount "/dev/sda2" ["newroot".toList] 1 (by decide)

/-- Its boot partition. -/
def targetBoot : Mounted :=
  diskMount "/dev/sda1" ["newroot".toList, "boot".toList] 2 (by decide)

/-- A mount point with a blank. -/
def blankMount : Mounted :=
  diskMount "/dev/sdb1" ["newroot".toList, "my data".toList] 3 (by decide)

/-- The target with its boot partition is released. -/
theorem release_leaves_nested :
    ∃ t', willingKernel.unmountRecursive "/newroot" [targetRoot, targetBoot] = (none, t') ∧
      Clear "/newroot" t' := by
  have hrun : willingKernel.unmountRecursive "/newroot" [targetRoot, targetBoot] = (none, []) := rfl
  have htidy : Tidy "/newroot" [targetRoot, targetBoot] := by
    refine ⟨fun m hm _ => ?_, ?_⟩
    · simp only [mem_cons, not_mem_nil, or_false] at hm
      obtain rfl | rfl := hm <;> rfl
    · refine pairwise_pair.mpr fun _ => ?_
      decide
  exact ⟨[], hrun, ((Kernel.release_leaves _ _).1 _ [] hrun).1 htidy⟩

/-- One of two mounts on the same path stays, and so does a mount point with a blank; both
    functions report success, and the file systems stay writable. -/
theorem stacked_and_escaped_mounts_stay :
    (willingKernel.unmountRecursive "/newroot" [targetRoot, targetRoot] = (none, [targetRoot]) ∧
      willingKernel.unmountRecursive "/newroot" [blankMount] = (none, [blankMount])) ∧
    (∃ report, willingKernel.unmountOrRemountReadOnly "/newroot" [blankMount] =
      (report, none, [blankMount])) ∧
    (Below "/newroot" targetRoot ∧ Below "/newroot" blankMount ∧ blankMount.Writable) := by
  refine ⟨⟨rfl, rfl⟩, ⟨_, rfl⟩, ?_, ?_, rfl, rfl⟩
  · unfold Below
    decide
  · unfold Below
    decide

end Booty.Disk
