import Booty.Espsync.Stage

namespace Booty.Espsync

open Booty.Lib List
open Booty.Lib.Prog
open Booty.Lib.FileTree
open Booty.Lib.Host

/-!
# Stale entries of the destination

`pruneTree` compares a destination directory with the staged one and removes what is not staged.  It
looks at a staged entry with `lstat`, and with `stat` to decide whether to go on inside, so it may
look through a staged symbolic link; it then only removes entries of a directory that the link is
going to replace.

* `Pruned` — what has a staged counterpart is kept, and the staging directory is untouched.
* `NoStale` — in a staged directory nothing stale is left.
* `pruneTree_upholds` — `Pruned` at every moment, and `NoStale` at the end when no call fails.
-/

/-- The destination below `rel` has lost only entries without a staged counterpart. -/
structure Pruned (D' : TreePath) (g : String) (rel : TreePath) (t t' : FileTree Unit) : Prop where
  same : SameOutside (fun x => D' ++ rel <+: x ∧ x ≠ D' ++ rel ∧ ¬D' ++ [g] <+: x) t t'
  shrinks : Shrinks t t'
  kept : ∀ y, t.get (D' ++ g :: y) ≠ none → t'.get (D' ++ y) = t.get (D' ++ y)

/-- An entry below `rel` that is still there is staged, if what contains it is. -/
def NoStale (D' : TreePath) (g : String) (t t' : FileTree Unit) (rel y : TreePath) : Prop :=
  ∀ r n, y = r ++ [n] → t.IsDir (D' ++ g :: (rel ++ r)) → ¬D' ++ [g] <+: D' ++ (rel ++ y) →
    t'.get (D' ++ (rel ++ y)) ≠ none → t.get (D' ++ g :: (rel ++ y)) ≠ none

section Prune

variable {H : Host} {t₀ t t' t'' : FileTree Unit} {S D S' D' rel y : TreePath} {n g : String}

namespace Pruned

theorem refl (D' : TreePath) (g : String) (rel : TreePath) (t : FileTree Unit) :
    Pruned D' g rel t t :=
  ⟨.refl _ t, .refl t, fun _ _ => rfl⟩

/-- The staging directory is as it was. -/
theorem get_staged (h : Pruned D' g rel t t') (y : TreePath) :
    t'.get (D' ++ g :: y) = t.get (D' ++ g :: y) := by
  refine h.same _ fun hc => hc.2.2 ⟨y, by simp⟩

theorem trans (h : Pruned D' g rel t t') (h' : Pruned D' g rel t' t'') : Pruned D' g rel t t'' := by
  refine ⟨h.same.trans h'.same, h.shrinks.trans h'.shrinks, fun y hy => ?_⟩
  rw [h'.kept y (by rwa [h.get_staged]), h.kept y hy]

/-- The directory itself is kept. -/
theorem get_self (h : Pruned D' g rel t t') : t'.get (D' ++ rel) = t.get (D' ++ rel) :=
  h.same _ fun hc => hc.2.1 rfl

theorem of_child (h : Pruned D' g (rel ++ [n]) t t') : Pruned D' g rel t t' := by
  refine ⟨h.same.mono fun x ⟨hx, _, hg⟩ => ?_, h.shrinks, h.kept⟩
  rw [← append_assoc] at hx
  exact ⟨(prefix_append _ _).trans hx, fun hc => not_prefix_append (hc ▸ hx), hg⟩

/-- A name in the directory that has no staged counterpart. -/
theorem of_removed (hg : ¬D' ++ [g] <+: D' ++ rel ++ [n])
    (hnone : t.get (D' ++ g :: (rel ++ [n])) = none) (h : Removed (D' ++ rel ++ [n]) t t') :
    Pruned D' g rel t t' := by
  refine ⟨h.1.mono fun x hx => ⟨(prefix_append _ _).trans hx,
    fun hc => not_prefix_append (hc ▸ hx), fun hc => hg ?_⟩, h.2, fun y hy => ?_⟩
  · -- The staging directory is no longer than the name.
    refine prefix_of_prefix_length_le hc hx ?_
    simp
  · refine h.1 _ fun hc => ?_
    rw [append_assoc, prefix_append_right_inj] at hc
    obtain ⟨z, rfl⟩ := hc
    have hcons : D' ++ g :: (rel ++ [n] ++ z) = D' ++ g :: (rel ++ [n]) ++ z := by simp
    rw [hcons] at hy
    exact ne_none_of_below hy hnone

theorem sameOutside (h : Pruned D' g rel t t') (ht : SameOutside (Below D') t₀ t) :
    SameOutside (Below D') t₀ t' := by
  refine ht.trans (h.same.mono fun x ⟨hx, hne, _⟩ => ?_)
  refine ⟨(prefix_append _ _).trans hx, fun hc => hne ?_⟩
  rw [hc] at hx ⊢
  exact (IsPrefix.eq_of_length_le hx (by simp)).symm

end Pruned

theorem isDirectory_upholds {p : TreePath} {I : FileTree Unit → Prop}
    {E : EspError → FileTree Unit → Prop} {Q : Bool → FileTree Unit → Prop}
    (htrue : t.stat p = .ok .dir → Q true t)
    (hfalse : (t.stat p ≠ .ok .dir ∨ ¬Quiet H.fails) → Q false t) :
    Upholds I (isDirectory H p) t Q E := by
  refine upholds_handle (upholds_ask (fun k hk => upholds_pure ?_)
    fun e he => upholds_pure (hfalse (he.imp (fun he => ?_) And.right)))
  · by_cases hkind : k = .dir <;> grind
  · rw [he]
    exact nofun

/-- A staged entry is found. -/
theorem lstat_staged (h : Roots t₀ S D S' D') (ht : SameOutside (Below D') t₀ t)
    (hget : t.get (D' ++ g :: (rel ++ [n])) ≠ none) :
    ∃ k, t.lstat (D ++ g :: rel ++ [n]) = .ok k := by
  rw [append_cons_concat] at hget
  rw [lstat_of_place (h.place ht (isDir_of_child hget) (validName_of_child hget)), kindAt]
  obtain ⟨e, he⟩ := Option.ne_none_iff_exists'.mp hget
  exact ⟨e.kind, by rw [he]; rfl⟩

/-- In a staged directory, what is found is staged. -/
theorem get_of_lstat_staged {k : Kind} (h : Roots t₀ S D S' D') (ht : SameOutside (Below D') t₀ t)
    (hdir : t.IsDir (D' ++ g :: rel)) (hn : ValidName n)
    (hk : t.lstat (D ++ g :: rel ++ [n]) = .ok k) : t.get (D' ++ g :: (rel ++ [n])) ≠ none := by
  rw [lstat_of_place (h.place ht hdir hn), kindAt] at hk
  intro hnone
  rw [← append_cons_concat, hnone] at hk
  cases hk

theorem exists_cons_of_concat {r : TreePath} {m : String} (h : n :: y = r ++ [m]) (hy : y ≠ []) :
    ∃ r', r = n :: r' ∧ y = r' ++ [m] := by
  cases r <;> grind

/-- A name whose staged counterpart was looked up. -/
theorem noStale_name {k : Kind} (h : Roots t₀ S D S' D') (ht : SameOutside (Below D') t₀ t)
    (hn : ValidName n) (hk : t.lstat (D ++ g :: rel ++ [n]) = .ok k) :
    NoStale D' g t t' rel [n] := by
  intro r m hr hdir _ _
  obtain ⟨rfl, rfl⟩ : r = [] ∧ m = n := by
    cases r with
    | nil => simpa using hr.symm
    | cons a r => simp at hr
  rw [append_nil] at hdir
  exact get_of_lstat_staged h ht hdir hn hk

/-- **One entry of a destination directory.** -/
theorem pruneEntry_upholds {k : Kind} {prune : TreePath → TreePath → Esp Unit}
    (h : Roots t₀ S D S' D') (ht : SameOutside (Below D') t₀ t) (hdir : t.IsDir (D' ++ rel))
    (hg : ¬D' ++ [g] <+: D' ++ rel ++ [n]) (hkind : t.kindAt (D' ++ rel ++ [n]) = some k)
    (hprune : k = .dir → Maintains (Pruned D' g (rel ++ [n]) t)
      (prune (D ++ rel ++ [n]) (D ++ g :: rel ++ [n])) t
      fun _ t' => Quiet H.fails → ∀ y, NoStale D' g t t' (rel ++ [n]) y) :
    Maintains (Pruned D' g rel t) (pruneEntry H prune (D ++ rel ++ [n]) (D ++ g :: rel ++ [n]) k) t
      fun _ t' => OnlyAt (D' ++ rel ++ [n]) t t' ∧
        (Quiet H.fails → ∀ y, NoStale D' g t t' rel (n :: y)) := by
  have hget : t.get (D' ++ rel ++ [n]) ≠ none := by
    intro hnone
    rw [kindAt, hnone] at hkind
    cases hkind
  have hn := validName_of_child hget
  refine upholds_handle (upholds_ask (fun k' hk' => ?_) fun e he => ?_)
  · -- The entry is staged.
    have hstay : (k ≠ .dir ∨ t.stat (D ++ g :: rel ++ [n]) ≠ .ok .dir) →
        ∀ y, NoStale D' g t t rel (n :: y) := by
      intro hc y r m hr hrdir hy hgety
      by_cases hnil : y = []
      · subst hnil
        exact noStale_name h ht hn hk' r m hr hrdir hy hgety
      · -- Something is below the name, so it is a directory on both sides.
        exfalso
        rw [← append_assoc, append_cons] at hgety
        have hleft : t.IsDir (D' ++ rel ++ [n]) := isDir_of_below hnil hgety
        obtain ⟨r', rfl, -⟩ := exists_cons_of_concat hr hnil
        have hright : t.IsDir (D' ++ g :: (rel ++ [n])) := by
          by_cases hr' : r' = []
          · rwa [hr'] at hrdir
          · grind [isDir_of_below, hrdir.ne_none]
        obtain hc | hc := hc
        · exact hc (Option.some.inj (hkind.symm.trans hleft))
        · have hleads := h.leads ht (r := g :: (rel ++ [n])) hright
          rw [append_cons_concat] at hleads
          exact hc hleads.stat
    have hnothing : (k ≠ .dir ∨ t.stat (D ++ g :: rel ++ [n]) ≠ .ok .dir ∨ ¬Quiet H.fails) →
        Maintains (Pruned D' g rel t) (pure () : Esp Unit) t
          fun _ t' => OnlyAt (D' ++ rel ++ [n]) t t' ∧
            (Quiet H.fails → ∀ y, NoStale D' g t t' rel (n :: y)) := by
      refine fun hc => upholds_pure ⟨.refl _ _ _ t, .refl _ t, fun hq => hstay ?_⟩
      obtain hc | hc | hc := hc
      · exact .inl hc
      · exact .inr hc
      · exact absurd hq hc
    refine upholds_ite (fun hdirk => upholds_bind ?_) fun hc => hnothing (.inl hc)
    refine isDirectory_upholds (fun _ => ?_) fun hc => ?_
    · refine upholds_wrapErr ((hprune hdirk).weaken (fun _ hi => hi.of_child) fun _ t' h' hq => ?_)
      refine ⟨h'.same.mono fun x hx => ?_, fun hquiet y => ?_⟩
      · rw [append_assoc]
        exact hx.1
      · by_cases hnil : y = []
        · grind [noStale_name]
        · intro r m hr hrdir hy hgety
          obtain ⟨r', rfl, hr'⟩ := exists_cons_of_concat hr hnil
          have := hq hquiet y r' m hr'
          simp only [append_assoc] at this
          exact this hrdir hy hgety
    · grind
  · -- The entry is not staged.
    refine upholds_ite (fun hnoent => ?_) fun _ => upholds_fail (.refl _ _ _ t)
    replace he := he.resolve_right fun hio => by rw [hio.1] at hnoent; cases hnoent
    have hnone : t.get (D' ++ g :: (rel ++ [n])) = none := by
      by_contra hne
      obtain ⟨k', hk'⟩ := lstat_staged h ht hne
      rw [hk'] at he
      cases he
    refine upholds_wrapErr ((removeAll_upholds (h.pinned ht hdir hn)).weaken
      (fun _ hi => .of_removed hg hnone hi) fun _ t' h' hq => ⟨h'.1, ?_⟩)
    intro _ y r m hr _ _ hgety
    rw [← append_assoc, append_cons] at hgety
    exact absurd hq (ne_none_of_below hgety)

/-- The names of a directory that are compared with the staged ones. -/
def PruneSpec (H : Host) (t₀ : FileTree Unit) (D D' : TreePath) (g : String) (fuel : Nat) : Prop :=
  ∀ (rel : TreePath) (t : FileTree Unit), SameOutside (Below D') t₀ t → t.IsDir (D' ++ rel) →
    rel.head? ≠ some g →
    (∀ x, D' ++ rel <+: x → t.get x ≠ none → x.length < (D' ++ rel).length + fuel) →
    Upholds (Pruned D' g rel t) (pruneFrom H fuel (D ++ rel) (D ++ g :: rel)) t
      (fun _ t' => Pruned D' g rel t t' ∧ (Quiet H.fails → ∀ y, NoStale D' g t t' rel y))
      fun _ t' => Pruned D' g rel t t'

/-- A name that is not the staging directory is not inside it. -/
theorem not_staging_of_ne (hrel : rel.head? ≠ some g) (hne : D ++ rel ++ [n] ≠ D ++ g :: rel) :
    ¬D' ++ [g] <+: D' ++ rel ++ [n] := by
  intro hc
  rw [append_assoc, prefix_append_right_inj] at hc
  cases rel <;> grind

/-- **`pruneTree`**, at every depth. -/
theorem pruneFrom_upholds (h : Roots t₀ S D S' D') (fuel : Nat) : PruneSpec H t₀ D D' g fuel := by
  induction fuel with
  | zero =>
    intro rel t _ hdir _ hfits
    have := hfits _ prefix_rfl hdir.ne_none
    omega
  | succ fuel ih =>
    intro rel t ht hdir hrel hfits
    obtain ⟨l, hl, hmem, hnodup⟩ := (h.leads ht hdir).readDir
    refine upholds_bind (upholds_look (fun _ => .refl _ _ _ t) fun entries hentries => ?_)
    rw [hl] at hentries
    cases hentries
    refine (upholds_eachName (C := Pruned D' g rel t)
      (L := fun n t1 => ∀ x, D' ++ rel ++ [n] <+: x → t1.get x = t.get x)
      (P := fun n t1 => Quiet H.fails → ∀ y, NoStale D' g t t1 rel (n :: y))
      hnodup (fun e he t1 h1 hleft => ?_) (.refl _ _ _ t) (fun _ _ _ _ => rfl)
      fun n hn _ y r a _ _ _ hget => ?_).imp fun _ t' h' => ⟨h'.1, fun hq y => ?_⟩
    · obtain ⟨n, k⟩ := e
      have ht1 := h1.sameOutside ht
      have hdir1 : t1.IsDir (D' ++ rel) := (isDir_congr h1.get_self).mpr hdir
      have hkind : t1.kindAt (D' ++ rel ++ [n]) = some k := by
        rw [kindAt, hleft _ prefix_rfl]
        exact (hmem n k).mp he
      -- What the entry changes lies below its own name.
      have hothers : ∀ t2, OnlyAt (D' ++ rel ++ [n]) t1 t2 → ∀ m, m ≠ n →
          ((∀ x, D' ++ rel ++ [m] <+: x → t1.get x = t.get x) →
            ∀ x, D' ++ rel ++ [m] <+: x → t2.get x = t.get x) ∧
          ((Quiet H.fails → ∀ y, NoStale D' g t t1 rel (m :: y)) →
            Quiet H.fails → ∀ y, NoStale D' g t t2 rel (m :: y)) := by
        intro t2 honly m hm
        have hsame : ∀ x, D' ++ rel ++ [m] <+: x → t2.get x = t1.get x :=
          fun x hx => honly x fun hc => hm (prefix_concat_of_ne hx hc)
        refine ⟨fun h x hx => (hsame x hx).trans (h x hx), fun h hq y r a hr hrdir hy hget => ?_⟩
        refine h hq y r a hr hrdir hy ?_
        rwa [← hsame]
        exact ⟨y, by simp⟩
      refine upholds_ite (fun heq => ?_) fun hne => ?_
      · -- The staging directory itself is left alone.
        refine upholds_pure ⟨h1, fun _ y r a _ _ hy _ => ?_, hothers t1 (.refl _ t1)⟩
        exfalso
        rw [append_assoc, append_cancel_left_eq] at heq
        refine hy ((prefix_append_right_inj D').mpr ?_)
        rw [append_cons, heq]
        exact ⟨rel ++ y, by simp⟩
      · have hg : ¬D' ++ [g] <+: D' ++ rel ++ [n] := not_staging_of_ne hrel hne
        refine (pruneEntry_upholds h ht1 hdir1 hg hkind fun hk => ?_).mono
          (fun _ hi => h1.trans hi) (fun _ t2 hpost => ?_) fun _ _ he => h1.trans he
        · have hchild : t1.IsDir (D' ++ (rel ++ [n])) := by
            rw [← append_assoc]
            exact hkind.trans (by rw [hk])
          have hhead : (rel ++ [n]).head? ≠ some g := by
            intro hc
            rw [append_assoc] at hg
            refine hg ((prefix_append_right_inj D').mpr ?_)
            obtain ⟨z, hz⟩ := head?_eq_some_iff.mp hc
            exact ⟨z, by rw [hz]; rfl⟩
          have hfits1 := fits_child (n := n) (P := (t1.get · ≠ none))
            fun x hx hget => hfits x hx (h1.shrinks.ne_none hget ▸ hget)
          rw [append_assoc] at hfits1
          have hspec := ih (rel ++ [n]) t1 ht1 hchild hhead hfits1
          rwa [← append_assoc, append_cons_concat] at hspec
        · obtain ⟨h2, honly, hstale⟩ := hpost
          refine ⟨h1.trans h2, fun hq y r a hr hrdir hy hget => ?_, hothers t2 honly⟩
          rw [← h1.get_staged]
          exact hstale hq y r a hr ((isDir_congr (h1.get_staged _)).mpr hrdir) hy hget
    · -- A name that is not listed has no entry.
      have hnone := none_of_not_listed (hmem n) hn
      rw [← append_assoc, append_cons] at hget
      exact absurd hnone (ne_none_of_below hget)
    · cases y with
      | nil =>
        intro r a hr
        simp at hr
      | cons n y => exact h'.2 n hq y

/-- **Pruning the destination.** -/
theorem pruneTree_upholds (h : Roots t₀ S D S' D') (ht : SameOutside (Below D') t₀ t) :
    Maintains (Pruned D' g [] t) (pruneTree H D (D ++ [g])) t
      fun _ t' => Quiet H.fails → ∀ y, NoStale D' g t t' [] y := by
  refine upholds_withState ?_
  have hdir := (h.destination t ht).2
  have := pruneFrom_upholds (H := H) (g := g) h (t.height + 1) [] t ht (by rwa [append_nil])
    (by simp) fun x _ hget => ?_
  · rwa [append_nil] at this
  · have := length_le_height hget
    omega

end Prune

end Booty.Espsync
