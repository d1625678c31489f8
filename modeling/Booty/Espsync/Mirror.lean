import Booty.Espsync.Install

namespace Booty.Espsync

open Booty.Lib List
open Booty.Lib.Prog
open Booty.Lib.FileTree
open Booty.Lib.Host

/-!
# The mirror after a copy, and during it

A run of `copyTree` has two phases.  Until the source is staged only staging directories of the
destination change; then the destination is pruned and the staged entries are installed.

* `copyTree_passes` — the two phases of every run, whatever calls fail.
* `copyTree_mirrors_iff` — a run that succeeds leaves the source's entries in the destination,
  exactly if the source path is itself a directory or there was nothing to copy.
* `copyTree_interrupted` — at every moment a file of both trees is the old or the new one, and
  nothing outside the staging directories changes before the staged copy is complete.
-/

/-- **Plain roots**: both paths name directories, and neither contains the other. -/
theorem roots_of_isDir {t : FileTree Unit} {S D : TreePath} (hS : t.IsDir S) (hD : t.IsDir D)
    (hapart : ¬S <+: D ∧ ¬D <+: S) : Roots t S D S D := by
  have hsrc : ∀ t', SameOutside (Below D) t t' → t'.get S = t.get S := fun t' ht' =>
    ht' S fun hc => hapart.2 hc.1
  refine ⟨fun t' ht' => ?_, fun t' ht' => ?_, fun t' ht' => ?_, hapart⟩
  · grind [leads_of_isDir, isDir_congr]
  · exact leads_of_isDir ((isDir_congr (ht' D fun hc => hc.2 rfl)).mpr hD)
  · have hlstat : ∀ {t1 : FileTree Unit}, t1.IsDir S → t1.lstat S = .ok .dir := by
      intro t1 hdir
      obtain ⟨y, n, rfl⟩ := (eq_nil_or_concat' S).resolve_left fun hc =>
        hapart.1 (hc ▸ nil_prefix)
      have hplace := (leads_root t1).place (r := y) (isDir_of_child hdir.ne_none)
        (validName_of_child hdir.ne_none).2.2.1
      rw [nil_append, nil_append] at hplace
      rw [lstat_of_place hplace, show t1.kindAt (y ++ [n]) = some .dir from hdir]
    rw [hlstat hS, hlstat ((isDir_congr (hsrc t' ht')).mpr hS)]

section Mirror

variable {H : Host} {t0 t t' : FileTree Unit} {S D S' D' rel : TreePath} {g : String}

/-! ### Removing the staging directory -/

section

variable {J : FileTree Unit → Prop} (h : Roots t0 S D S' D') (hg : ValidName g)
  (hsame : ∀ t', J t' → SameOutside (Below D') t0 t')
  (hrem : ∀ t' t'', J t' → Removed (D' ++ [g]) t' t'' → J t'')
include h hg hsame hrem

/-- The staging directory is removed at any moment. -/
theorem removeStaged_upholds (hJ : J t) :
    Upholds J (H.removeAll (D ++ [g])) t
      (fun _ t' => Removed (D' ++ [g]) t t' ∧ t'.get (D' ++ [g]) = none)
      fun _ t' => Removed (D' ++ [g]) t t' :=
  (removeAll_upholds (h.pinned_root (hsame t hJ) hg)).mono (fun _ hi => hrem t _ hJ hi)
    (fun _ _ hq => hq) fun _ _ he => he

/-- A step that removes the staging directory when it fails. -/
theorem orCleanup_upholds {m : Esp Unit} {Q : Unit → FileTree Unit → Prop} {text : String}
    (hm : Upholds J m t Q fun _ t' => J t') :
    Upholds J (orCleanup H (D ++ [g]) text m) t Q fun _ t' => J t' := by
  refine upholds_handle (hm.ends (fun _ _ hq => upholds_pure hq) fun _ t1 h1 => ?_)
  exact upholds_handle ((removeStaged_upholds h hg hsame hrem h1).ends
    (fun _ t2 h2 => upholds_fail (hrem t1 t2 h1 h2.1))
    fun _ t2 h2 => upholds_fail (hrem t1 t2 h1 h2))

end

/-- Nothing changes when the staging directory is gone already. -/
theorem get_of_removed (h : Removed (D' ++ [g]) t t') (hnone : t.get (D' ++ [g]) = none)
    (x : TreePath) : t'.get x = t.get x := by
  by_cases hx : D' ++ [g] <+: x
  · have hgone : t.get x = none := by
      obtain ⟨y, rfl⟩ := hx
      by_contra hne
      exact ne_none_of_below hne hnone
    rw [hgone]
    exact (h.2 x).elim (fun heq => heq.trans hgone) id
  · exact h.1 x hx

/-! ### The second phase -/

variable {E : TreePath → Option (Node Unit)}

/-- Removing the staging directory takes no file of both trees. -/
theorem Synced.of_removed {t'' : FileTree Unit}
    (hL : Layout E g) (hdir : t.IsDir (D' ++ [g])) (h : Synced E D' t t')
    (h' : Removed (D' ++ [g]) t' t'') :
    Synced E D' t t'' := by
  refine ⟨h.same.trans (h'.1.mono fun _ hx => below_of_isPrefix hx (cons_ne_nil g [])),
    fun y c c' hE hget => ?_⟩
  rw [h'.1 _ fun hc => ?_]
  · exact h.files y c c' hE hget
  · obtain ⟨z, rfl⟩ := (prefix_append_right_inj D').mp hc
    -- Nothing is staged below the staging directory's own name, which is a directory.
    have hz : z = [] := hL.below_staging (g := g) (by
      grind)
    obtain ⟨m, hm⟩ := isDir_iff.mp hdir
    rw [hz, append_nil, hm] at hget
    cases hget

/-- **An installed tree without its staging directory** is the staged tree. -/
theorem get_of_installed {t'' : FileTree Unit} (hL : Layout E g)
    (hdir : t'.IsDir (D' ++ [g])) (hdone : ∀ x, x ≠ [] → E x ≠ none → t'.get (D' ++ x) = E x)
    (hstale : ∀ r n, E r = some (.dir ()) → ¬[g] <+: r ++ [n] →
      t'.get (D' ++ (r ++ [n])) ≠ none → E (r ++ [n]) ≠ none)
    (hrem : Removed (D' ++ [g]) t' t'') (hnone : t''.get (D' ++ [g]) = none) (hrel : rel ≠ []) :
    t''.get (D' ++ rel) = E rel := by
  have hEg : ∀ z, E (g :: z) = none := by
    intro z
    by_contra hE
    have hz := hL.below_staging hE
    subst hz
    have := hdone [g] (cons_ne_nil g []) hE
    obtain ⟨⟨⟩, hm⟩ := isDir_iff.mp hdir
    exact hL.staging (this.symm.trans hm)
  by_cases hx : [g] <+: rel
  · obtain ⟨z, rfl⟩ := hx
    rw [singleton_append, hEg, ← singleton_append, ← append_assoc]
    by_contra hne
    exact ne_none_of_below hne hnone
  · rw [hrem.1 _ fun hc => hx ((prefix_append_right_inj D').mp hc)]
    by_cases hE : E rel = none
    · rw [hE]
      -- From the root to the path: below a staged directory the path would be stale, below anything
      -- else nothing can be.
      induction rel using reverseRecOn with
      | nil => exact absurd rfl hrel
      | append_singleton r n ih =>
        by_contra hget
        have hparent : t'.IsDir (D' ++ r) := by
          rw [← append_assoc] at hget
          exact isDir_of_child hget
        by_cases hr : E r = some (.dir ())
        · exact hstale r n hr hx hget hE
        · have hr0 : r ≠ [] := fun hc => hr (hc ▸ hL.root)
          have hout : ¬[g] <+: r := fun hc => hx (hc.trans (prefix_append r [n]))
          by_cases hrn : E r = none
          · exact hparent.ne_none (ih hr0 hout hrn)
          · obtain ⟨⟨⟩, hm⟩ := isDir_iff.mp hparent
            exact hr ((hdone r hr0 hrn).symm.trans hm)
    · exact hdone rel hrel hE

/-- The second phase of a run. -/
theorem install_upholds (h : Roots t0 S D S' D')
    (hL : Layout E g) (hg : ValidName g) (ht : SameOutside (Below D') t0 t)
    (hstaged : ∀ x, t.get (D' ++ g :: x) = E x) :
    Upholds (Synced E D' t)
      (deferred
        (do
          orCleanup H (D ++ [g]) "sync destination" (syncTree H (D ++ [g]) D)
          wrapErr (wrapped "remove staging") (H.removeAll (D ++ [g])))
        (H.removeAll (D ++ [g]))) t
      (fun _ t' => Quiet H.fails → ∀ rel, rel ≠ [] → t'.get (D' ++ rel) = E rel)
      fun _ _ => True := by
  have hdir : t.IsDir (D' ++ [g]) := isDir_iff.mpr ⟨(), (hstaged []).trans hL.root⟩
  have hsame : ∀ t', Synced E D' t t' → SameOutside (Below D') t0 t' := fun _ h' =>
    ht.trans h'.same
  have hrem : ∀ t' t'', Synced E D' t t' → Removed (D' ++ [g]) t' t'' → Synced E D' t t'' :=
    fun _ _ => .of_removed hL hdir
  -- After an error the deferred removal only has to keep what is synchronised.
  have hfailed : ∀ t1, Synced E D' t t1 → Upholds (Synced E D' t) (H.removeAll (D ++ [g])) t1
      (fun _ _ => True) fun _ _ => True := fun t1 h1 =>
    (removeStaged_upholds h hg hsame hrem h1).ends (fun _ _ _ => trivial)
      fun _ _ _ => trivial
  refine upholds_deferred (upholds_bind ((orCleanup_upholds h hg hsame hrem
    (syncTree_upholds h hL ht hstaged)).ends
    (fun _ t1 ⟨h1, hdir1, hdone, hstale⟩ => ?_) fun _ t1 h1 => hfailed t1 h1))
  refine upholds_wrapErr ((removeStaged_upholds h hg hsame hrem h1).ends
    (fun _ t2 ⟨h2, hnone⟩ => ?_) fun _ t2 h2 => hfailed t2 (hrem t1 t2 h1 h2))
  have hfinal : ∀ t3, Removed (D' ++ [g]) t2 t3 → Quiet H.fails →
      ∀ rel, rel ≠ [] → t3.get (D' ++ rel) = E rel := by
    intro t3 h3 hquiet rel hrel
    rw [get_of_removed h3 hnone, get_of_installed hL hdir1 hdone (hstale hquiet) h2 hnone hrel]
  exact (removeStaged_upholds h hg hsame hrem (hrem t1 t2 h1 h2)).ends
    (fun _ t3 h3 => hfinal t3 h3.1) fun _ t3 h3 => hfinal t3 h3

/-! ### The whole run -/

/-- A complete copy of the source in a staging directory. -/
def Complete (t : FileTree Unit) (S' D' : TreePath) (t₁ : FileTree Unit) : Prop :=
  ∃ g, isStagingName g = true ∧ ∀ rel, rel ≠ [] → t₁.get (D' ++ g :: rel) = mirrored t S' rel

/-- A file of both trees is the old or the new one.  Staging directories belong to the copy. -/
def OldOrNew (t : FileTree Unit) (S' D' : TreePath) (t' : FileTree Unit) : Prop :=
  ∀ rel old new, ¬Reserved t S' rel → t.get (D' ++ rel) = some (.file () old) →
    t.get (S' ++ rel) = some (.file () new) →
    t'.get (D' ++ rel) = some (.file () old) ∨ t'.get (D' ++ rel) = some (.file () new)

/-- A file of both trees is in no staging directory. -/
theorem not_stagingArea {old new : List UInt8} (hres : ¬Reserved t S' rel)
    (hold : t.get (D' ++ rel) = some (.file () old))
    (hnew : t.get (S' ++ rel) = some (.file () new)) : ¬StagingArea t D' (D' ++ rel) := by
  rintro ⟨n, hn, hfree, hx⟩
  obtain ⟨z, rfl⟩ := (prefix_append_right_inj D').mp hx
  rw [← append_assoc] at hold
  have hdir : t.IsDir (D' ++ [n]) :=
    hfree.resolve_left (ne_none_of_below (hold ▸ Option.some_ne_none _))
  by_cases hz : z = []
  · obtain ⟨m, hm⟩ := isDir_iff.mp hdir
    rw [hz, append_nil, hm] at hold
    cases hold
  · rw [← append_assoc] at hnew
    exact hres ⟨hn, isDir_of_below hz (hnew ▸ Option.some_ne_none _)⟩

theorem oldOrNew_of_sameOutside (h : SameOutside (StagingArea t D') t t') :
    OldOrNew t S' D' t' := by
  intro rel old new hres hold hnew
  exact .inl ((h _ (not_stagingArea hres hold hnew)).trans hold)

theorem oldOrNew_of_synced {t1 : FileTree Unit} (hroots : Roots t S D S' D')
    (hS : t.lstat S = .ok .dir) (h : SameOutside (StagingArea t D') t t1)
    (h' : Synced (staged t S S') D' t1 t') :
    OldOrNew t S' D' t' := by
  intro rel old new hres hold hnew
  have hrel : rel ≠ [] := by
    rintro rfl
    obtain ⟨m, hm⟩ := isDir_iff.mp (hroots.destination t (.refl _ t)).2
    rw [append_nil, hm] at hold
    cases hold
  have hE : staged t S S' rel = some (.file () new) := by
    rw [staged_of_ne hrel, if_pos hS, mirrored, if_neg hres, hnew]
  have hold1 : t1.get (D' ++ rel) = some (.file () old) :=
    (h _ (not_stagingArea hres hold hnew)).trans hold
  obtain heq | heq := h'.files rel new old hE hold1
  · exact .inl (heq.trans hold1)
  · exact .inr (heq.trans hE)

/-- **The two phases of a run.**  When it succeeds and no call has failed, the destination holds
    what was staged. -/
theorem copyTree_passes (h : Roots t S D S' D') :
    Passes (SameOutside (StagingArea t D') t)
      (fun t1 => t.lstat S = .ok .dir → Complete t S' D' t1)
      (fun t' => t.lstat S = .ok .dir → OldOrNew t S' D' t') (copyTree H S D) t
      fun _ t' => Quiet H.fails → ∀ rel, rel ≠ [] → t'.get (D' ++ rel) = staged t S S' rel := by
  have hbelow : ∀ t', SameOutside (StagingArea t D') t t' → SameOutside (Below D') t t' :=
    fun _ h' => h'.mono fun _ => below_of_stagingArea
  refine passes_bind (E := fun _ _ => True) (upholds_wrapErr (validateRoots_upholds.ends ?_
    fun _ _ _ => trivial))
  rintro _ t1 rfl
  refine passes_bind (E := fun _ _ => True) (upholds_wrapErr ((cleanStaging_upholds h).ends
    (fun _ t2 h2 => ?_) fun _ _ _ => trivial))
  -- A free name with the reserved start was free or a staging directory before.
  have harea : ∀ {n}, isStagingName n = true → t2.get (D' ++ [n]) = none →
      ∀ x, D' ++ [n] <+: x → StagingArea t1 D' x := by
    intro n hn hnone x hx
    by_cases hin : StagingArea t1 D' (D' ++ [n])
    · obtain ⟨m, hm, hfree, hpre⟩ := hin
      exact ⟨m, hm, hfree, hpre.trans hx⟩
    · exact ⟨n, hn, .inl ((h2 _ hin).symm.trans hnone), hx⟩
  refine passes_bind (E := fun _ _ => True) (upholds_wrapErr ((mkdirTemp_upholds h (hbelow t2 h2)
    fun n t3 hn hnone h3 => h2.trans ((onlyAt_of_added h3).mono (harea hn hnone))).ends
    (fun g t3 ⟨hname, hg, hnone, h3⟩ => ?_) fun _ _ _ => trivial))
  have h3' : SameOutside (StagingArea t1 D') t1 t3 :=
    h2.trans ((onlyAt_of_added h3).mono (harea hname hnone))
  have hdir3 : t3.IsDir (D' ++ [g]) := isDir_iff.mpr ⟨(), by rw [h3, if_pos rfl]⟩
  have hempty : ∀ x, x ≠ [] → t3.get (D' ++ g :: x) = none := by
    intro x hx
    have hcons : D' ++ g :: x = D' ++ [g] ++ x := by simp
    rw [h3, if_neg, hcons]
    · exact get_below_eq_none hx fun hc => hc.ne_none hnone
    · simpa using hx
  have hrem : ∀ t' t'', SameOutside (StagingArea t1 D') t1 t' → Removed (D' ++ [g]) t' t'' →
      SameOutside (StagingArea t1 D') t1 t'' := fun _ _ h' h'' =>
    h'.trans (h''.1.mono (harea hname hnone))
  unfold deferred
  rw [handle_bind]
  -- The first phase ends with the copy of the source.
  have hinside : ∀ t4, OnlyAt (D' ++ [g]) t3 t4 → SameOutside (StagingArea t1 D') t1 t4 :=
    fun _ h4 => h3'.trans (h4.mono (harea hname hnone))
  have hcopy := (copyDir_upholds (H := H) h (hbelow t3 h3') hdir3 hempty).mono hinside
    (fun _ _ hq => hq) fun _ => hinside
  refine passes_handle ((orCleanup_upholds h hg hbelow hrem hcopy).ends
    (fun _ t4 ⟨h4, hdir4, hall⟩ => ?_) fun e t4 h4 => passes_of_upholds (E := fun _ _ => True)
      (upholds_handle ((removeStaged_upholds h hg hbelow hrem h4).ends
        (fun _ _ _ => upholds_fail trivial) fun _ _ _ => upholds_fail trivial)))
  have h4' := hinside t4 h4
  have hL : Layout (staged t1 S S') g := staged_layout hname
  have hstaged : ∀ x, t4.get (D' ++ g :: x) = staged t1 S S' x := by
    intro x
    by_cases hx : x = []
    · obtain ⟨⟨⟩, hm⟩ := isDir_iff.mp hdir4
      rw [hx, hm]
      rfl
    · exact hall x hx
  refine passes_switch (fun hS => ⟨g, hname, fun rel hrel => ?_⟩)
    ((install_upholds h hL hg (hbelow t4 h4') hstaged).mono
      (fun t' h' hS => oldOrNew_of_synced h hS h4' h') (fun _ _ hq => hq) fun _ _ he => he)
  rw [hall rel hrel, staged_of_ne hrel, if_pos hS]

/-! ### The mirror -/

/-- **Mirroring.**  When no call fails, a run that succeeds leaves the source in the destination,
    without its staging directories and with nothing else, exactly if the source path is itself a
    directory or there is nothing to mirror: a source path that is a symbolic link to a directory is
    accepted but not followed. -/
theorem copyTree_mirrors_iff (hquiet : Quiet H.fails) (h : Roots t S D S' D')
    (hrun : (copyTree H S D (Disk.start t)).1 = .ok ()) :
    (∀ rel, rel ≠ [] →
      (copyTree H S D (Disk.start t)).2.now.get (D' ++ rel) = mirrored t S' rel) ↔
      t.lstat S = .ok .dir ∨ ∀ rel, rel ≠ [] → mirrored t S' rel = none := by
  have hfinal := (copyTree_passes (H := H) h).of_ok hrun hquiet
  constructor
  · intro hmirror
    by_cases hS : t.lstat S = .ok .dir
    · exact .inl hS
    · grind [staged_of_ne]
  · intro hcond rel hrel
    rw [hfinal rel hrel, staged_of_ne hrel]
    split
    · rfl
    next hS => exact (hcond.resolve_left hS rel hrel).symm

end Mirror

/-- A host whose calls all succeed, with directories in their stored order. -/
def plainHost : Host := ⟨fun _ => false, fun _ => Visit.stored, id, fun c => [c], fun c => by simp⟩

/-- A source with a boot loader, a symbolic link to it, and a destination with other files. -/
def linkedTree : FileTree Unit := FileTree.ofList ()
  [(["esp"], .dir ()), (["esp", "boot"], .file () [1, 2]), (["efi"], .link "/esp"),
    (["mirror"], .dir ()), (["mirror", "boot"], .file () [3]), (["mirror", "old"], .dir ())]

theorem linkedTree_roots : Roots linkedTree ["esp"] ["mirror"] ["esp"] ["mirror"] :=
  roots_of_isDir (by decide +kernel) (by decide +kernel) (by decide)

theorem copyTree_mirrors_linkedTree :
    (copyTree plainHost ["esp"] ["mirror"] (Disk.start linkedTree)).2.now.get ["mirror", "boot"] =
        some (.file () [1, 2]) ∧
      (copyTree plainHost ["esp"] ["mirror"] (Disk.start linkedTree)).2.now.get ["mirror", "old"] =
        none := by
  have hmirror := (copyTree_mirrors_iff (H := plainHost) (fun _ => rfl) linkedTree_roots
    (by decide +kernel)).mpr (.inl (by decide +kernel))
  exact ⟨(hmirror ["boot"] (by decide)).trans (by decide +kernel),
    (hmirror ["old"] (by decide)).trans (by decide +kernel)⟩

/-- The same source by its symbolic link. -/
theorem linkedTree_roots_link : Roots linkedTree ["efi"] ["mirror"] ["esp"] ["mirror"] := by
  have hget : ∀ {t' : FileTree Unit}, SameOutside (Below ["mirror"]) linkedTree t' →
      ∀ p, ¬["mirror"] <+: p → t'.get p = linkedTree.get p :=
    fun ht' p hp => ht' p fun hc => hp hc.1
  have hlink : linkedTree.get ["efi"] = some (.link "/esp") := by decide +kernel
  have hdir : linkedTree.get ["esp"] = some (.dir ()) := by decide +kernel
  have hroot : linkedTree.get [] = some (.dir ()) := by decide +kernel
  have hplain := linkedTree_roots
  refine ⟨fun t' ht' => ?_, hplain.destination, fun t' ht' => ?_,
    hplain.apart⟩
  · have hesp := hplain.source t' ht'
    refine ⟨?_, hesp.2⟩
    have hwalk : t'.walkNames true [] ["efi"] = .link [] "/esp" [] := by
      simp [walkNames, hget ht', hlink, hroot]
    have hnames : pathNames "/esp" = ["esp"] := by decide +kernel
    have habs : isAbsolute "/esp" = true := by decide +kernel
    have hwalk' : t'.walkNames true [] ["esp"] = .found ["esp"] := by
      simp [walkNames, hget ht', hdir, hroot]
    unfold target
    rw [resolve, hwalk]
    dsimp only
    rw [if_pos habs, hnames, append_nil, resolve_of_found hwalk']
  · have hplace : ∀ {t1 : FileTree Unit}, t1.get [] = some (.dir ()) →
        t1.get ["efi"] = some (.link "/esp") → t1.lstat ["efi"] = .ok .link := by
      intro t1 hroot1 hlink1
      have hfound : t1.walkNames false [] ["efi"] = .found ["efi"] := by
        simp [walkNames, hroot1, hlink1]
      rw [lstat_of_place (resolve_of_found hfound), kindAt, hlink1]
      rfl
    rw [hplace hroot hlink, hplace ((hget ht' [] (by decide)).trans hroot)
      ((hget ht' ["efi"] (by decide)).trans hlink)]

/-- A run with the symbolic link succeeds and leaves no boot loader. -/
theorem copyTree_empties_linked_mirror :
    Roots linkedTree ["efi"] ["mirror"] ["esp"] ["mirror"] ∧ Quiet plainHost.fails ∧
      (copyTree plainHost ["efi"] ["mirror"] (Disk.start linkedTree)).1 = .ok () ∧
      (copyTree plainHost ["efi"] ["mirror"] (Disk.start linkedTree)).2.now.get
        (["mirror"] ++ ["boot"]) ≠ mirrored linkedTree ["esp"] ["boot"] :=
  ⟨linkedTree_roots_link, fun _ => rfl, by decide +kernel, by decide +kernel⟩

/-! ### Interruption -/

/-- **Interruption.**  For a source path that is itself a directory, at every moment of a run, with
    whatever calls failing, a file of both trees is the old or the new one; and until the source is
    completely staged nothing outside the staging directories has changed. -/
theorem copyTree_interrupted {H : Host} {t : FileTree Unit} {S D S' D' : TreePath}
    (h : Roots t S D S' D') (hS : t.lstat S = .ok .dir) :
    (∀ t' ∈ (copyTree H S D (Disk.start t)).2.states, OldOrNew t S' D' t') ∧
      (Disk.start t).Phased (SameOutside (StagingArea t D') t) (Complete t S' D') (fun _ => True)
        (copyTree H S D (Disk.start t)).2 := by
  have hphased := (copyTree_passes (H := H) h).phased
  refine ⟨fun t' ht' => ?_, ?_⟩
  · obtain rfl | hsame | hnew := hphased.mem_states ht'
    · exact oldOrNew_of_sameOutside (.refl _ t')
    · exact oldOrNew_of_sameOutside hsame
    · exact hnew hS
  · obtain hfirst | ⟨w, hfirst, hcomplete, hsecond⟩ := hphased
    · exact .inl hfirst
    · exact .inr ⟨w, hfirst, hcomplete hS, hsecond.mono fun _ _ => trivial⟩

/-- A host on which a call fails while the loader is installed. -/
def failingHost : Host :=
  ⟨fun n => n == 25, fun _ => Visit.stored, id, fun c => [c], fun c => by simp⟩

theorem copyTree_interrupted_failingHost :
    (copyTree failingHost ["esp"] ["mirror"] (Disk.start linkedTree)).1 ≠ .ok () ∧
      ((copyTree failingHost ["esp"] ["mirror"] (Disk.start linkedTree)).2.now.get
          (["mirror"] ++ ["boot"]) = some (.file () [3]) ∨
        (copyTree failingHost ["esp"] ["mirror"] (Disk.start linkedTree)).2.now.get
          (["mirror"] ++ ["boot"]) = some (.file () [1, 2])) :=
  ⟨by decide +kernel,
    (copyTree_interrupted (H := failingHost) linkedTree_roots (by decide +kernel)).1 _
      mem_cons_self ["boot"] [3] [1, 2] (by decide +kernel) (by decide +kernel)
      (by decide +kernel)⟩

/-- With the symbolic link the boot loader of the destination is removed and not replaced. -/
theorem copyTree_loses_linked_loader :
    Roots linkedTree ["efi"] ["mirror"] ["esp"] ["mirror"] ∧
      ¬Reserved linkedTree ["esp"] ["boot"] ∧
      linkedTree.get (["mirror"] ++ ["boot"]) = some (.file () [3]) ∧
      linkedTree.get (["esp"] ++ ["boot"]) = some (.file () [1, 2]) ∧
      (copyTree plainHost ["efi"] ["mirror"] (Disk.start linkedTree)).2.now ∈
        (copyTree plainHost ["efi"] ["mirror"] (Disk.start linkedTree)).2.states ∧
      (copyTree plainHost ["efi"] ["mirror"] (Disk.start linkedTree)).2.now.get
        (["mirror"] ++ ["boot"]) = none :=
  ⟨linkedTree_roots_link, by decide +kernel, by decide +kernel, by decide +kernel,
    mem_cons_self, by decide +kernel⟩

end Booty.Espsync
