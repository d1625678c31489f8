import Booty.Espsync.Prune

namespace Booty.Espsync

open Booty.Lib List Option GoError
open Booty.Lib.Prog
open Booty.Lib.FileTree
open Booty.Lib.Host

/-!
# Moving the staged entries into place

The walk through the staging directory makes every staged directory and renames every other entry
over what is at its path.  An entry of another type is removed first, so a regular file that is in
both trees is never missing.

* `Layout` — what a staged tree can look like.
* `Installed` — a file of the destination is kept or replaced by the staged one, and nothing appears
  that is not staged.
* `installWalk_upholds` — `Installed` at every moment, every staged entry in its place at the end.
* `syncTree_upholds` — pruning and installing together.
-/

/-- A tree of staged entries that is closed under parents and has no directory with the name of the
    staging directory in its root. -/
structure Layout (E : TreePath → Option (Node Unit)) (g : String) : Prop where
  root : E [] = some (.dir ())
  closed : ∀ r x, x ≠ [] → E (r ++ x) ≠ none → E r = some (.dir ())
  named : ∀ r n, E (r ++ [n]) ≠ none → ValidName n
  staging : E [g] ≠ some (.dir ())

/-- What the installation of the staged entries below `rel` may have done. -/
structure Installed (E : TreePath → Option (Node Unit)) (D' : TreePath) (g : String)
    (rel : TreePath) (t t' : FileTree Unit) : Prop where
  same : SameOutside (fun x => Below D' x ∧ (D' ++ rel <+: x ∨ D' ++ g :: rel <+: x)) t t'
  files : ∀ y c c', E y = some (.file () c) → t.get (D' ++ y) = some (.file () c') →
    t'.get (D' ++ y) = t.get (D' ++ y) ∨ t'.get (D' ++ y) = E y
  new : ∀ x, t'.get x ≠ none → t.get x ≠ none ∨ ∃ y, x = D' ++ y ∧ E y ≠ none

section Install

variable {H : Host} {E : TreePath → Option (Node Unit)} {t₀ t t' t'' : FileTree Unit}
  {S D S' D' rel r x y : TreePath} {n g : String} {e : Node Unit}

/-- The staged tree has the layout that an install expects. -/
theorem staged_layout (hg : isStagingName g = true) : Layout (staged t S S') g := by
  have hne : ∀ {x : TreePath}, x ≠ [] → staged t S S' x ≠ none →
      mirrored t S' x ≠ none ∧ staged t S S' x = mirrored t S' x := by
    intro x hx h
    rw [staged_of_ne hx] at h ⊢
    split at h
    next hdir => exact ⟨h, by rw [if_pos hdir]⟩
    · exact absurd rfl h
  refine ⟨rfl, fun r x hx h => ?_, fun r n h => ?_, fun h => ?_⟩
  · by_cases hr : r = []
    · rw [hr]
      rfl
    · grind [append_ne_nil_of_right_ne_nil, staged_of_ne, mirrored_dir]
  · exact validName_of_mirrored (hne (by simp) h).1
  · have := (hne (cons_ne_nil g []) (h ▸ some_ne_none _)).2
    exact mirrored_staging hg (this.symm.trans h)

namespace Layout

/-- Nothing is staged below the name of the staging directory. -/
theorem below_staging (hE : Layout E g) (h : E (g :: x) ≠ none) : x = [] := by
  by_contra hx
  exact hE.staging (hE.closed [g] x hx h)

theorem head_ne (hE : Layout E g) (h : E (r ++ [n]) ≠ none) (hne : ¬(r = [] ∧ n = g)) :
    (r ++ [n]).head? ≠ some g := by
  intro hc
  obtain ⟨z, hz⟩ := head?_eq_some_iff.mp hc
  rw [hz] at h
  have := hE.below_staging h
  subst this
  refine hne ?_
  cases r with
  | nil => simpa using hz
  | cons a r => simp at hz

/-- Nothing is below a leaf. -/
theorem eq_of_leaf (hL : Layout E g) (hE : E rel = some e) (hleaf : e.kind ≠ .dir)
    (hx : rel <+: x) (h : E x ≠ none) : x = rel := by
  obtain ⟨y, rfl⟩ := hx
  by_contra hne
  have hdir := hL.closed rel y (fun hy => hne (by rw [hy, append_nil])) h
  rw [hE] at hdir
  cases hdir
  exact hleaf rfl

end Layout

theorem not_prefix_of_head (h : rel.head? ≠ some g) (hrel : rel ≠ []) : ¬rel <+: g :: x := by
  cases rel with
  | nil => exact absurd rfl hrel
  | cons a rel => grind

namespace Installed

theorem refl (E : TreePath → Option (Node Unit)) (D' : TreePath) (g : String) (rel : TreePath)
    (t : FileTree Unit) : Installed E D' g rel t t :=
  ⟨.refl _ t, fun _ _ _ _ _ => .inl rfl, fun _ hx => .inl hx⟩

/-- Two installs. -/
theorem trans (h : Installed E D' g rel t t') (h' : Installed E D' g rel t' t'') :
    Installed E D' g rel t t'' := by
  refine ⟨h.same.trans h'.same, fun y c c' hE hget => ?_, fun x hx => ?_⟩
  · obtain hold | hnew := h.files y c c' hE hget
    · rw [← hold] at hget
      obtain hold' | hnew' := h'.files y c c' hE hget
      · exact .inl (hold'.trans hold)
      · exact .inr hnew'
    · obtain hold' | hnew' := h'.files y c c hE (hnew.trans hE)
      · exact .inr (hold'.trans hnew)
      · exact .inr hnew'
  · obtain hx | hy := h'.new x hx
    · exact h.new x hx
    · exact .inr hy

/-- The install of an entry is a part of that of its directory. -/
theorem of_child (h : Installed E D' g (rel ++ [n]) t t') : Installed E D' g rel t t' := by
  refine ⟨h.same.mono fun x ⟨hx, hor⟩ => ⟨hx, ?_⟩, h.files, h.new⟩
  obtain hor | hor := hor
  · grind [prefix_append]
  · grind [prefix_append]

theorem sameOutside (h : Installed E D' g rel t t') (ht : SameOutside (Below D') t₀ t) :
    SameOutside (Below D') t₀ t' := ht.trans (h.same.mono fun _ hx => hx.1)

/-- The staged entries outside the part that is installed. -/
theorem get_staged (h : Installed E D' g rel t t') (hhead : rel.head? ≠ some g) (hrel : rel ≠ [])
    (hx : ¬rel <+: x) : t'.get (D' ++ g :: x) = t.get (D' ++ g :: x) := by
  refine h.same _ fun hc => ?_
  obtain hc | hc := hc.2
  · grind [not_prefix_of_head, prefix_append_right_inj]
  · simp_all

/-- The entries of the destination outside that part. -/
theorem get_destination (h : Installed E D' g rel t t') (hrel : ¬rel <+: x)
    (hx : ¬g :: rel <+: x) : t'.get (D' ++ x) = t.get (D' ++ x) := by
  refine h.same _ fun hc => ?_
  obtain hc | hc := hc.2
  · simp_all
  · simp_all

/-- An entry that is no regular file in both trees is removed. -/
theorem of_removed (h : Removed (D' ++ r ++ [n]) t t')
    (hfile : ∀ y c c', r ++ [n] <+: y → E y = some (.file () c) →
      t.get (D' ++ y) ≠ some (.file () c')) : Installed E D' g (r ++ [n]) t t' := by
  rw [append_assoc] at h
  refine ⟨h.1.mono fun x hx => ⟨?_, .inl hx⟩, fun y c c' hE hget => .inl (h.1 _ fun hc => ?_),
    fun x hx => .inl (h.2.ne_none hx ▸ hx)⟩
  · exact below_of_isPrefix hx (by simp)
  · grind [prefix_append_right_inj]

/-- A staged directory is made. -/
theorem of_added (hE : E (r ++ [n]) ≠ none) (hnone : t.get (D' ++ r ++ [n]) = none)
    (h : Added (D' ++ r ++ [n]) e t t') : Installed E D' g (r ++ [n]) t t' := by
  rw [append_assoc] at h hnone
  refine ⟨(onlyAt_of_added h).mono fun x hx => ⟨?_, .inl hx⟩, fun y c c' _ hget => .inl ?_,
    fun x hx => ?_⟩
  · exact below_of_isPrefix hx (by simp)
  · rw [h, if_neg]
    intro hc
    rw [hc, hnone] at hget
    cases hget
  · rw [h] at hx
    split at hx
    next heq => exact .inr ⟨r ++ [n], heq, hE⟩
    · exact .inl hx

/-- A staged entry is renamed into its place. -/
theorem of_renamed (hL : Layout E g) (hE : E (r ++ [n]) = some e)
    (h : ∀ x, t'.get x = if x = D' ++ (r ++ [n]) then some e
      else if x = D' ++ g :: (r ++ [n]) then none else t.get x) :
    Installed E D' g (r ++ [n]) t t' := by
  have hne : r ++ [n] ≠ [] := by simp
  refine ⟨fun x hx => ?_, fun y c c' hEy hget => ?_, fun x hx => ?_⟩
  · rw [h, if_neg, if_neg]
    · rintro rfl
      exact hx ⟨below_append (cons_ne_nil g _), .inr prefix_rfl⟩
    · grind [below_append]
  · rw [h]
    split
    next heq => grind [append_cancel_left_eq]
    · split
      next heq =>
        -- No staged file has a path inside the staging directory.
        rw [append_cancel_left_eq] at heq
        rw [heq] at hEy
        exact absurd (hL.below_staging (hEy ▸ some_ne_none _)) hne
      · exact .inl rfl
  · grind

end Installed

/-! ### Directories -/

section

variable (h : Roots t₀ S D S' D') (hL : Layout E g)
include h hL

/-- A staged directory comes to its place: what is there and is no directory goes first. -/
theorem installDir_upholds (ht : SameOutside (Below D') t₀ t) (hE : E (r ++ [n]) = some (.dir ()))
    (hdir : t.IsDir (D' ++ r)) :
    Maintains (Installed E D' g (r ++ [n]) t) (installDir H (D ++ r ++ [n])) t
      fun _ t' => OnlyAt (D' ++ r ++ [n]) t t' ∧ t'.IsDir (D' ++ r ++ [n]) := by
  have hE' : E (r ++ [n]) ≠ none := hE ▸ some_ne_none _
  have hn : ValidName n := hL.named r n hE'
  have hplace := h.place ht hdir hn
  -- The directory is made where nothing is left.
  have hmake : ∀ t1, Installed E D' g (r ++ [n]) t t1 → OnlyAt (D' ++ r ++ [n]) t t1 →
      t1.get (D' ++ r ++ [n]) = none →
      Maintains (Installed E D' g (r ++ [n]) t)
        (wrapErr sentinel (H.mkdirAll (D ++ r ++ [n]) ()) : Esp Unit) t1
        fun _ t' => OnlyAt (D' ++ r ++ [n]) t t' ∧ t'.IsDir (D' ++ r ++ [n]) := by
    intro t1 h1 honly hnone
    have ht1 := h1.sameOutside ht
    have hdir1 : t1.IsDir (D' ++ r) := (isDir_congr (honly _ not_prefix_append)).mpr hdir
    refine upholds_wrapErr ((mkdirAll_adds (h.leads ht1 hdir1) hn.2.2.1
      hnone fun t2 h2 => h1.trans (.of_added hE' hnone h2)).ends
      (fun _ t2 h2 => ?_) ?_)
    · refine ⟨h1.trans (.of_added hE' hnone h2), honly.trans (onlyAt_of_added h2), ?_⟩
      exact isDir_iff.mpr ⟨(), by rw [h2, if_pos rfl]⟩
    · rintro _ _ rfl
      exact h1
  refine upholds_bind (upholds_handle (upholds_ask (fun k hk => ?_) fun e he => ?_))
  · rw [lstat_of_place hplace] at hk
    have hkind : t.kindAt (D' ++ r ++ [n]) = some k := by
      split at hk
      next hk' => rw [hk', ← Except.ok.inj hk]
      · cases hk
    refine upholds_ite (fun hother => ?_) fun hsame => ?_
    · have hnotdir : ¬t.IsDir (D' ++ r ++ [n]) := fun hc =>
        hother (some.inj (hkind.symm.trans hc))
      have hrem : ∀ t1, Removed (D' ++ r ++ [n]) t t1 → Installed E D' g (r ++ [n]) t t1 := by
        refine fun _ h1 => .of_removed h1 fun y c c' hy hEy hget => ?_
        obtain ⟨z, rfl⟩ := hy
        by_cases hz : z = []
        · grind
        · grind [get_below_eq_none]
      refine upholds_wrapErr ((removeAll_upholds (h.pinned ht hdir hn)).mono hrem
        (fun _ t1 h1 => ?_) fun _ => hrem)
      exact hmake t1 (hrem t1 h1.1) h1.1.1 h1.2
    · refine upholds_pure ?_
      rw [not_not] at hsame
      have hisdir : t.IsDir (D' ++ r ++ [n]) := hkind.trans (by rw [hsame])
      rw [append_assoc] at hisdir ⊢
      have hleads := h.leads ht hisdir
      rw [append_assoc]
      refine upholds_wrapErr ((mkdirAll_leads hleads).ends ?_ ?_)
      · rintro _ _ rfl
        exact ⟨.refl _ _ _ _ _, .refl _ _, hisdir⟩
      · rintro _ _ rfl
        exact .refl _ _ _ _ _
  · refine upholds_ite (fun hnoent => upholds_pure ?_) fun _ => upholds_fail (.refl _ _ _ _ t)
    refine hmake t (.refl _ _ _ _ t) (.refl _ t) ?_
    rw [hnoent, lstat_of_place hplace] at he
    split at he
    · simp at he
    next hnone => exact map_eq_none_iff.mp hnone

/-! ### Other entries -/

/-- One rename of a staged entry. -/
theorem rename_upholds {Q : Unit → FileTree Unit → Prop} {F : Errno → FileTree Unit → Prop}
    {t1 : FileTree Unit} (ht : SameOutside (Below D') t₀ t1) (hE : E (r ++ [n]) = some e)
    (hstaged : t1.get (D' ++ g :: r ++ [n]) = some e) (hdir : t1.IsDir (D' ++ r))
    (h1 : Installed E D' g (r ++ [n]) t t1)
    (hQ : ∀ t', Installed E D' g (r ++ [n]) t t' → t'.get (D' ++ r ++ [n]) = some e →
      ¬t1.IsDir (D' ++ r ++ [n]) → Q () t') (hF : ∀ e, F e t1) :
    Upholds (Installed E D' g (r ++ [n]) t) (H.rename (D ++ g :: r ++ [n]) (D ++ r ++ [n])) t1 Q
      F := by
  have hn : ValidName n := hL.named r n (hE ▸ some_ne_none _)
  refine upholds_change (fun t' ht' => ?_) fun e _ => hF e
  obtain ⟨q, q', e', hq, hq', hget, -, hnotdir, hall⟩ := rename_ok ht'
  have hsome : t1.get (D' ++ g :: r ++ [n]) ≠ none := hstaged ▸ some_ne_none _
  rw [h.place ht (isDir_of_child hsome) hn] at hq
  rw [h.place ht hdir hn] at hq'
  cases hq
  cases hq'
  rw [hstaged] at hget
  cases hget
  rw [append_assoc D' r [n], ← append_cons_concat] at hall
  have hdone := h1.trans (.of_renamed hL hE hall)
  refine ⟨hdone, hQ t' hdone ?_ hnotdir⟩
  rw [append_assoc, hall, if_pos rfl]

/-- **A staged file or link comes to its place.**  It cannot take the place of the staging directory
    itself. -/
theorem replacePath_upholds (ht : SameOutside (Below D') t₀ t) (hE : E (r ++ [n]) = some e)
    (hleaf : e.kind ≠ .dir) (hdir : t.IsDir (D' ++ r))
    (hstaged : t.get (D' ++ g :: r ++ [n]) = some e) :
    Maintains (Installed E D' g (r ++ [n]) t) (replacePath H (D ++ r ++ [n]) (D ++ g :: r ++ [n])) t
      fun _ t' => t'.get (D' ++ r ++ [n]) = some e ∧ (r ++ [n]).head? ≠ some g := by
  have hE' : E (r ++ [n]) ≠ none := hE ▸ some_ne_none _
  have hn : ValidName n := hL.named r n hE'
  have hsome : t.get (D' ++ g :: r ++ [n]) ≠ none := hstaged ▸ some_ne_none _
  have hstg : t.IsDir (D' ++ [g]) := by
    have hassoc : D' ++ g :: r ++ [n] = D' ++ [g] ++ (r ++ [n]) := by simp
    rw [hassoc] at hsome
    exact isDir_of_below (by simp) hsome
  refine upholds_bind (mkdirAll_parent h ht hdir ?_ fun _ => .refl _ _ _ _ t)
  refine upholds_handle (rename_upholds h hL ht hE hstaged hdir (.refl _ _ _ _ t)
    (fun t' h' hget hnotdir => upholds_pure ⟨h', hget, hL.head_ne hE' ?_⟩) fun e' => ?_)
  · grind
  · refine upholds_bind (isDirectory_upholds (fun hstat => ?_) fun _ => ?_)
    · -- Only a directory, or a link to one, is removed.
      have hrem : ∀ t1, Removed (D' ++ r ++ [n]) t t1 → Installed E D' g (r ++ [n]) t t1 := by
        refine fun _ h1 => .of_removed h1 fun y c c' hy hEy hget => ?_
        have := hL.eq_of_leaf hE hleaf hy (hEy ▸ some_ne_none _)
        subst this
        rw [← append_assoc] at hget
        have hkind : t.kindAt (D' ++ r ++ [n]) = some .file := by
          rw [kindAt, hget]
          rfl
        rw [stat_of_target (target_of_place (h.place ht hdir hn) (by rw [hkind]; simp)),
          hkind] at hstat
        cases hstat
      refine upholds_bind (upholds_wrapErr ((removeAll_upholds (h.pinned ht hdir hn)).mono
        hrem (fun _ t1 h1 => ?_) fun _ => hrem))
      have h1' := hrem t1 h1.1
      have ht1 := h1'.sameOutside ht
      by_cases hself : r = [] ∧ n = g
      · -- The staging directory is gone, and the entry with it.
        obtain ⟨rfl, rfl⟩ := hself
        refine upholds_wrapErr (upholds_change (fun t' ht' => ?_) fun _ _ => h1')
        obtain ⟨q, q', e', hq, -⟩ := rename_ok ht'
        have hgone : t1.get (D' ++ [n]) = none := by
          have := h1.2
          rwa [append_nil] at this
        have hassoc : D ++ n :: [] ++ [n] = D ++ [n, n] := by simp
        rw [hassoc, (h.destination t1 ht1).place_below_missing hgone hn.2.2.1] at hq
        cases hq
      · have hhead := hL.head_ne hE' hself
        have hne : r ++ [n] ≠ [] := by simp
        have hstaged1 : t1.get (D' ++ g :: r ++ [n]) = some e := by
          rw [h1.1.1 _ fun hc => ?_, hstaged]
          rw [append_assoc, append_assoc, prefix_append_right_inj] at hc
          exact not_prefix_of_head hhead hne hc
        have hdir1 : t1.IsDir (D' ++ r) := (isDir_congr (h1.1.1 _ not_prefix_append)).mpr hdir
        exact upholds_wrapErr (rename_upholds h hL ht1 hE hstaged1 hdir1 h1'
          (fun t' h' hget _ => ⟨h', hget, hhead⟩) fun _ => h1')
    · exact upholds_fail (.refl _ _ _ _ t)

/-! ### The walk through the staging directory -/

/-- The installation of a staged entry with everything below it. -/
def InstallSpec (H : Host) (E : TreePath → Option (Node Unit)) (t₀ : FileTree Unit)
    (D D' : TreePath) (g : String) (fuel : Nat) : Prop :=
  ∀ (r : TreePath) (n : String) (e : Node Unit) (t : FileTree Unit), SameOutside (Below D') t₀ t →
    E (r ++ [n]) = some e → t.IsDir (D' ++ r) →
    (∀ x, r ++ [n] <+: x → t.get (D' ++ g :: x) = E x) →
    (∀ x, r ++ [n] <+: x → E x ≠ none → x.length < (r ++ [n]).length + fuel) →
    Upholds (Installed E D' g (r ++ [n]) t)
      (H.walkFrom GoError.sentinel (installVisit H (D ++ [g]) D) fuel (D ++ g :: r ++ [n]) e.kind) t
      (fun _ t' => Installed E D' g (r ++ [n]) t t' ∧ (r ++ [n]).head? ≠ some g ∧
        ∀ x, r ++ [n] <+: x → E x ≠ none → t'.get (D' ++ x) = E x)
      fun _ t' => Installed E D' g (r ++ [n]) t t'

/-- **The entries of a staged directory**, one after the other. -/
theorem installChildren_upholds {fuel : Nat} (ih : InstallSpec H E t₀ D D' g fuel)
    (ht : SameOutside (Below D') t₀ t) (hdir : t.IsDir (D' ++ rel))
    (hstaged : t.IsDir (D' ++ g :: rel))
    (hall : ∀ x, rel <+: x → x ≠ rel → t.get (D' ++ g :: x) = E x)
    (hfits : ∀ x, rel <+: x → E x ≠ none → x.length < rel.length + (fuel + 1)) :
    Maintains (Installed E D' g rel t)
      (do
        let entries ← wrapErr sentinel (H.readDir (D ++ g :: rel))
        each (fun e => H.walkFrom sentinel (installVisit H (D ++ [g]) D) fuel
          (D ++ g :: rel ++ [e.1]) e.2) entries) t
      fun _ t' => t'.IsDir (D' ++ rel) ∧ t'.IsDir (D' ++ g :: rel) ∧
        ∀ x, rel <+: x → x ≠ rel → E x ≠ none → t'.get (D' ++ x) = E x := by
  obtain ⟨l, hl, hmem, hnodup⟩ := (h.leads ht hstaged).readDir
  have hkind : ∀ n k, (n, k) ∈ l ↔ (E (rel ++ [n])).map Node.kind = some k := by
    intro n k
    rw [hmem, kindAt, ← append_cons_concat, hall _ (prefix_append _ _) (by simp)]
  refine upholds_bind (upholds_look (fun _ => .refl _ _ _ _ t) fun entries hentries => ?_)
  rw [hl] at hentries
  cases hentries
  refine (upholds_eachName
    (C := fun t1 => Installed E D' g rel t t1 ∧ t1.IsDir (D' ++ rel) ∧ t1.IsDir (D' ++ g :: rel))
    (L := fun n t1 => ∀ x, rel ++ [n] <+: x → t1.get (D' ++ g :: x) = E x)
    (P := fun n t1 => ∀ x, rel ++ [n] <+: x → E x ≠ none → t1.get (D' ++ x) = E x)
    hnodup (fun e he t1 h1 hleft => ?_) ⟨.refl _ _ _ _ t, hdir, hstaged⟩
    (fun e _ x hx => ?_) fun n hn x hx hE => ?_).imp
    fun _ t' h' => ⟨h'.1.1, h'.1.2.1, h'.1.2.2, fun x hx hne hE => ?_⟩
  · obtain ⟨n, k⟩ := e
    obtain ⟨h1, htarget, hsource⟩ := h1
    obtain ⟨a, ha, rfl⟩ := map_eq_some_iff.mp ((hkind n k).mp he)
    refine (ih rel n a t1 (h1.sameOutside ht) ha htarget hleft (fits_child hfits)).mono
      (fun _ hi => h1.trans hi.of_child) (fun _ t2 hpost => ?_)
      fun _ _ he => h1.trans he.of_child
    obtain ⟨h2, hhead2, hdone⟩ := hpost
    have hne : rel ++ [n] ≠ [] := by simp
    refine ⟨⟨h1.trans h2.of_child, ?_, ?_⟩, hdone,
      fun m hm => ⟨fun h x hx => ?_, fun h x hx hE => ?_⟩⟩
    · refine (isDir_congr (h2.get_destination not_prefix_append fun hc => ?_)).mpr htarget
      have := hc.length_le
      simp only [length_cons, length_append] at this
      omega
    · exact (isDir_congr (h2.get_staged hhead2 hne not_prefix_append)).mpr hsource
    · rw [h2.get_staged hhead2 hne fun hc => hm (prefix_concat_of_ne hx hc)]
      exact h x hx
    · rw [h2.get_destination (fun hc => hm (prefix_concat_of_ne hx hc)) fun hc => ?_]
      · exact h x hx hE
      · -- Nothing is staged for a path inside the staging directory.
        obtain ⟨z, rfl⟩ := hc
        exact hne (append_eq_nil_iff.mp (hL.below_staging hE)).1
  · grind
  · -- A name that is not listed is not staged.
    have hnone := none_of_not_listed (hkind n) hn
    obtain ⟨z, rfl⟩ := hx
    by_cases hz : z = []
    · rw [hz, append_nil] at hE
      exact absurd hnone hE
    · rw [hL.closed _ z hz hE] at hnone
      exact absurd hnone (some_ne_none _)
  · obtain ⟨n, hn⟩ := exists_concat_isPrefix hx hne
    exact h'.2 n x hn hE

/-- **The walk through the staging directory** installs an entry with everything below it. -/
theorem installWalk_upholds (fuel : Nat) : InstallSpec H E t₀ D D' g fuel := by
  induction fuel with
  | zero =>
    intro r n e t _ hE _ _ hfits
    have := hfits _ prefix_rfl (hE ▸ some_ne_none _)
    omega
  | succ fuel ih =>
    intro r n e t ht hE hdir hall hfits
    have hE' : E (r ++ [n]) ≠ none := hE ▸ some_ne_none _
    have hne : r ++ [n] ≠ [] := by simp
    have hrel : (D ++ g :: r ++ [n]).drop (D ++ [g]).length = r ++ [n] := by
      have hassoc : D ++ g :: r ++ [n] = D ++ [g] ++ (r ++ [n]) := by simp
      rw [hassoc, drop_left]
    have hstaged : t.get (D' ++ g :: r ++ [n]) = some e := by
      rw [← append_cons_concat, hall _ prefix_rfl, hE]
    refine upholds_bind ?_
    unfold installVisit
    rw [hrel, if_neg hne, ← append_assoc D r [n]]
    refine upholds_ite (fun hkind => upholds_bind ?_) fun hkind => upholds_bind ?_
    · -- A directory: its entries follow once it is in place.
      have hEdir : E (r ++ [n]) = some (.dir ()) := by
        obtain ⟨⟨⟩, rfl⟩ := Node.kind_eq_dir.mp hkind
        exact hE
      have hhead : (r ++ [n]).head? ≠ some g := by
        refine hL.head_ne hE' ?_
        rintro ⟨rfl, rfl⟩
        exact hL.staging hEdir
      refine (installDir_upholds h hL ht hEdir hdir).imp fun _ t1 ⟨h1, honly, hdir1⟩ => ?_
      refine upholds_pure (upholds_ite (fun hc => ?_) fun _ => ?_)
      · grind
      have hall1 : ∀ x, r ++ [n] <+: x → t1.get (D' ++ g :: x) = E x := by
        intro x hx
        rw [honly _ fun hc => ?_, hall x hx]
        rw [append_assoc, prefix_append_right_inj] at hc
        exact not_prefix_of_head hhead hne hc
      have hstaged1 : t1.IsDir (D' ++ g :: (r ++ [n])) := by
        rw [isDir_iff, hall1 _ prefix_rfl]
        exact ⟨(), hEdir⟩
      rw [append_assoc] at hdir1
      have hchildren := installChildren_upholds h hL ih (h1.sameOutside ht) hdir1 hstaged1
        (fun x hx _ => hall1 x hx) hfits
      rw [append_cons_concat] at hchildren
      refine hchildren.weaken (fun _ hi => h1.trans hi) fun _ t2 _ ⟨hdir2, _, hdone⟩ => ?_
      refine ⟨hhead, fun x hx hEx => ?_⟩
      by_cases hxe : x = r ++ [n]
      · obtain ⟨⟨⟩, hm⟩ := isDir_iff.mp hdir2
        rw [hxe, hm, hEdir]
      · exact hdone x hx hxe hEx
    · refine upholds_wrapErr ((replacePath_upholds h hL ht hE hkind hdir hstaged).imp
        fun _ t1 ⟨h1, hget, hhead⟩ => ?_)
      refine upholds_pure (upholds_ite (fun _ => upholds_pure ⟨h1, hhead, fun x hx hEx => ?_⟩)
        fun hc => absurd (Or.inr hkind) hc)
      rw [hL.eq_of_leaf hE hkind hx hEx, hE, ← append_assoc, hget]

end

/-! ### Pruning and installing -/

/-- What `syncTree` may have done: a file of both trees is as it was or as it is staged. -/
structure Synced (E : TreePath → Option (Node Unit)) (D' : TreePath) (t t' : FileTree Unit) :
    Prop where
  same : SameOutside (Below D') t t'
  files : ∀ y c c', E y = some (.file () c) → t.get (D' ++ y) = some (.file () c') →
    t'.get (D' ++ y) = t.get (D' ++ y) ∨ t'.get (D' ++ y) = E y

/-- After the prune the destination has nothing else. -/
theorem synced_of_pruned (hstaged : ∀ x, t.get (D' ++ g :: x) = E x) (h : Pruned D' g [] t t') :
    Synced E D' t t' := by
  refine ⟨h.same.mono fun x hx => ?_, fun y c c' hE _ => .inl (h.kept y ?_)⟩
  · rw [append_nil] at hx
    exact ⟨hx.1, hx.2.1⟩
  · grind

/-- After an install, too. -/
theorem synced_of_installed (hstaged : ∀ x, t.get (D' ++ g :: x) = E x)
    (h : Pruned D' g [] t t') (h' : Installed E D' g rel t' t'') : Synced E D' t t'' := by
  refine ⟨(synced_of_pruned hstaged h).same.trans (h'.same.mono fun _ hx => hx.1),
    fun y c c' hE hget => ?_⟩
  have hkept : t'.get (D' ++ y) = t.get (D' ++ y) :=
    h.kept y (by rw [hstaged, hE]; exact some_ne_none _)
  rw [← hkept] at hget ⊢
  exact h'.files y c c' hE hget

/-- **The destination after `syncTree`.**  Every staged entry is in its place, the staging directory
    is still there, and when no call fails, nothing stale is left in a staged directory. -/
theorem syncTree_upholds (h : Roots t₀ S D S' D') (hL : Layout E g)
    (ht : SameOutside (Below D') t₀ t) (hstaged : ∀ x, t.get (D' ++ g :: x) = E x) :
    Maintains (Synced E D' t) (syncTree H (D ++ [g]) D) t fun _ t' => t'.IsDir (D' ++ [g]) ∧
      (∀ x, x ≠ [] → E x ≠ none → t'.get (D' ++ x) = E x) ∧
      (Quiet H.fails → ∀ r n, E r = some (.dir ()) → ¬[g] <+: r ++ [n] →
        t'.get (D' ++ (r ++ [n])) ≠ none → E (r ++ [n]) ≠ none) := by
  have hpruned : ∀ t', Pruned D' g [] t t' → Synced E D' t t' := fun _ => synced_of_pruned hstaged
  refine upholds_bind (upholds_wrapErr ((pruneTree_upholds h ht).mono hpruned
    (fun _ t1 ⟨h1, hstale⟩ => ?_) fun _ => hpruned))
  have hsynced1 := hpruned t1 h1
  have ht1 := ht.trans hsynced1.same
  have hstaged1 : ∀ x, t1.get (D' ++ g :: x) = E x := fun x => (h1.get_staged x).trans (hstaged x)
  have hdir1 : t1.IsDir (D' ++ [g]) := isDir_iff.mpr ⟨(), (hstaged1 []).trans hL.root⟩
  have htarget : t1.IsDir (D' ++ []) := by
    rw [append_nil]
    exact (h.destination t1 ht1).2
  refine upholds_wrapErr (upholds_bind (upholds_look (fun _ => hsynced1) fun k hk => ?_))
  have hg : ValidName g := validName_of_child hdir1.ne_none
  rw [lstat_of_place (h.pinned_root ht1 hg).now, hdir1] at hk
  cases hk
  refine upholds_withState (upholds_bind ?_)
  unfold installVisit
  rw [drop_length]
  refine upholds_pure (upholds_ite (fun hc => ?_) fun _ => ?_)
  · grind
  have hfits : ∀ x, [] <+: x → E x ≠ none →
      x.length < ([] : TreePath).length + (t1.height + 1) := by
    intro x _ hE
    rw [← hstaged1] at hE
    have := length_le_height hE
    rw [length_append, length_cons] at this
    omega
  refine (installChildren_upholds h hL (installWalk_upholds h hL t1.height) ht1 htarget hdir1
    (fun x _ _ => hstaged1 x) hfits).weaken (fun _ hi => synced_of_installed hstaged h1 hi)
    fun _ t2 h2 ⟨_, hdir2, hdone⟩ => ⟨hdir2, fun x hx hE => ?_, fun hquiet r n hr hout hget => ?_⟩
  · exact hdone x nil_prefix hx hE
  · obtain hold | ⟨y, hy, hE⟩ := h2.new _ hget
    · -- What was there before the installation has been compared with the staged tree.
      have hstale' := hstale hquiet (r ++ [n]) r n rfl
      rw [hstaged] at hstale'
      refine hstale' (isDir_iff.mpr ⟨(), (hstaged r).trans hr⟩) (fun hc => hout ?_) hold
      exact (prefix_append_right_inj D').mp hc
    · simp_all

end Install

end Booty.Espsync
