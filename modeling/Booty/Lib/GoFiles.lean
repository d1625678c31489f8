import Booty.Lib.Crash

namespace Booty.Lib

open List

/-!
# Go's file functions

The functions of Go's `os` and `path/filepath` packages that make several calls, as programs that
can be interrupted between them.

* `mkdirAll`, `removeAll`, `mkdirTemp`, `walkDir`.
* `removeAll_upholds` — at every moment of `os.RemoveAll` only entries at and below the path are
  gone; when it returns nil, all of them are.
* `mkdirAll_leads`, `mkdirAll_adds` — `os.MkdirAll` of a directory that exists changes nothing, and
  otherwise it adds the directory.
-/

/-- What a program cannot know: the calls that fail, the order in which a directory gives its names,
    the numbers of the temporary names and the pieces in which a content is written. -/
structure Host where
  fails : Nat → Bool
  order : TreePath → Visit
  random : Nat → Nat
  pieces : List UInt8 → List (List UInt8)
  pieces_flatten : ∀ c, (pieces c).flatten = c

/-- A program over a file tree. -/
abbrev FileProg (μ ε α : Type) := Prog (Disk (FileTree μ)) ε α

namespace Host

open Prog

variable {μ ε : Type} (H : Host)
variable (p : TreePath) (mode : μ)

/-- `os.Lstat`. -/
def lstat : FileProg μ Errno Kind := ask H.fails fun t => t.lstat p

/-- `os.Stat`. -/
def stat : FileProg μ Errno Kind := ask H.fails fun t => t.stat p

/-- `os.ReadDir`. -/
def readDir : FileProg μ Errno (List (String × Kind)) :=
  ask H.fails fun t => t.readDir p

/-- `os.Readlink`. -/
def readlink : FileProg μ Errno String := ask H.fails fun t => t.readlink p

/-- `os.ReadFile`. -/
def readFile : FileProg μ Errno (List UInt8) := ask H.fails fun t => t.readFile p

/-- `os.Mkdir`. -/
def mkdir : FileProg μ Errno Unit :=
  change H.fails fun t => t.mkdir p mode

/-- The creation of a file. -/
def create : FileProg μ Errno Unit :=
  change H.fails fun t => t.create p mode

/-- A write at the end of a file. -/
def extend (b : List UInt8) : FileProg μ Errno Unit :=
  change H.fails fun t => t.extend p b

/-- `os.Symlink`. -/
def symlink (s : String) (p : TreePath) : FileProg μ Errno Unit :=
  change H.fails fun t => t.symlink s p

/-- `unlink(2)`. -/
def unlink : FileProg μ Errno Unit := change H.fails fun t => t.unlink p

/-- `rmdir(2)`. -/
def rmdir : FileProg μ Errno Unit := change H.fails fun t => t.rmdir p

/-- `os.Rename`. -/
def rename (p p' : TreePath) : FileProg μ Errno Unit := change H.fails fun t => t.rename p p'

/-- A call that neither looks nor changes anything, such as `fsync` and `close`. -/
def settle : FileProg μ Errno Unit := ask H.fails fun _ => .ok ()

/-- A directory that is opened. -/
def openDir : FileProg μ Errno Unit :=
  ask H.fails fun t => (t.dirNames p).map fun _ => ()

/-- The names in a directory, in the order in which it gives them. -/
def readNames : FileProg μ Errno (List String) :=
  ask H.fails fun t => (t.dirNames p).map (H.order p).order

/-! ### Directories -/

/-- `os.Mkdir` of a directory that may exist. -/
def mkdirOrExists : FileProg μ Errno Unit :=
  handle (H.mkdir p mode) pure fun e =>
    handle (H.lstat p) (fun k => if k = .dir then pure () else fail e) fun _ => fail e

/-- `os.MkdirAll` of a path with `n` names. -/
def mkdirAllFrom (mode : μ) : Nat → TreePath → FileProg μ Errno Unit
  | 0, p =>
    handle (H.stat p) (fun k => if k = .dir then pure () else fail .notdir) fun _ =>
      H.mkdirOrExists p mode
  | n + 1, p =>
    handle (H.stat p) (fun k => if k = .dir then pure () else fail .notdir) fun _ => do
      mkdirAllFrom mode n p.dropLast
      H.mkdirOrExists p mode

/-- `os.MkdirAll`. -/
def mkdirAll : FileProg μ Errno Unit := H.mkdirAllFrom mode p.length p

/-- `os.MkdirTemp`, from the number `i` on. -/
def mkdirTempFrom (dir : TreePath) (start : String) (mode : μ) : Nat → Nat → FileProg μ Errno String
  | 0, _ => fail .exist
  | tries + 1, i =>
    handle (H.mkdir (dir ++ [start ++ toString (H.random i)]) mode)
      (fun _ => pure (start ++ toString (H.random i))) fun e =>
      if e = .exist then mkdirTempFrom dir start mode tries (i + 1) else fail e

/-- `os.MkdirTemp`: the name of the new directory. -/
def mkdirTemp (dir : TreePath) (start : String) (mode : μ) : FileProg μ Errno String :=
  H.mkdirTempFrom dir start mode 10000 0

/-! ### Removal -/

/-- The directory itself, after its entries; `err` is the last error among them. -/
def removeDir (err : Option Errno) : FileProg μ Errno Unit :=
  handle (H.rmdir p) pure fun e => if e = .noent then pure () else fail (err.getD e)

/-- `removeAllFrom`. -/
def removeAllFrom : Nat → TreePath → FileProg μ Errno Unit
  | 0, _ => lift (.fault .outOfFuel)
  | fuel + 1, p =>
    handle (H.unlink p) pure fun e =>
      if e = .noent then pure ()
      else if e ≠ .isdir then fail e
      else
        handle (H.openDir p)
          (fun _ =>
            handle (H.readNames p)
              (fun names => do
                let err ← collect (fun n => removeAllFrom fuel (p ++ [n])) names none
                H.removeDir p err)
              fun e => if e = .noent then pure () else fail e)
          fun e =>
            if e = .noent then pure () else if e = .notdir then fail .isdir
            else H.removeDir p (some e)

/-- `os.Remove`. -/
def remove : FileProg μ Errno Unit :=
  handle (H.unlink p) pure fun e =>
    handle (H.rmdir p) pure fun e' => fail (if e' = .notdir then e else e')

/-- `os.RemoveAll`. -/
def removeAll : FileProg μ Errno Unit :=
  handle (H.remove p) pure fun e =>
    if e = .noent then pure ()
    else
      handle (H.openDir p.dropLast) (fun _ => withState fun t => H.removeAllFrom (t.height + 1) p)
        fun e => if e = .noent then pure () else fail e

/-! ### Walks -/

/-- `walkDir`: `fn` is called for the entry, and then for what is in it unless `fn` skips the
    directory; `wrap` is what `fn` makes of a directory that cannot be read. -/
def walkFrom (wrap : Errno → ε) (fn : TreePath → Kind → FileProg μ ε Bool) :
    Nat → TreePath → Kind → FileProg μ ε Unit
  | 0, _, _ => lift (.fault .outOfFuel)
  | fuel + 1, p, k => do
    let skip ← fn p k
    if skip ∨ k ≠ .dir then pure ()
    else do
      let entries ← wrapErr wrap (H.readDir p)
      each (fun e => walkFrom wrap fn fuel (p ++ [e.1]) e.2) entries

/-- `filepath.WalkDir`. -/
def walkDir (wrap : Errno → ε) (fn : TreePath → Kind → FileProg μ ε Bool) (p : TreePath) :
    FileProg μ ε Unit := do
  let k ← wrapErr wrap (H.lstat p)
  withState fun t => H.walkFrom wrap fn (t.height + 1) p k

/-! ### What removal does -/

section Removal

open FileTree

variable {H} {t t' : FileTree μ} {p q : TreePath}

/-- Only entries at and below a path are gone. -/
def Removed (q : TreePath) (t t' : FileTree μ) : Prop := SameOutside (q <+: ·) t t' ∧ Shrinks t t'

theorem Removed.refl (q : TreePath) (t : FileTree μ) : Removed q t t := ⟨.refl _ t, .refl t⟩

theorem Removed.trans {t1 t2 t3 : FileTree μ} (h : Removed q t1 t2) (h' : Removed q t2 t3) :
    Removed q t1 t3 := ⟨h.1.trans h'.1, h.2.trans h'.2⟩

theorem removed_of_get (h : ∀ x, t'.get x = if x = q then none else t.get x) : Removed q t t' := by
  refine ⟨fun x hx => ?_, fun x => ?_⟩
  · grind
  · grind

/-- The path names the entry `q`, whatever happens in a region. -/
def Pinned (R : TreePath → Prop) (t : FileTree μ) (p q : TreePath) : Prop :=
  ∀ t', SameOutside R t t' → t'.place p = .ok q

theorem Pinned.now {R : TreePath → Prop} (h : Pinned R t p q) : t.place p = .ok q := h t (.refl R t)

theorem Pinned.after {R : TreePath → Prop} (h : Pinned R t p q) (ht : SameOutside R t t') :
    Pinned R t' p q := fun t'' ht'' => h t'' (ht.trans ht'')

variable {n : String}

theorem not_prefix_append : ¬q ++ [n] <+: q := by
  intro h
  have := h.length_le
  simp at this

/-- An entry of a directory is one level deeper. -/
theorem fits_child {P : TreePath → Prop} {n : String} {fuel : Nat}
    (h : ∀ x, q <+: x → P x → x.length < q.length + (fuel + 1)) :
    ∀ x, q ++ [n] <+: x → P x → x.length < (q ++ [n]).length + fuel := by
  intro x hx hP
  have := h x ((prefix_append q [n]).trans hx) hP
  simp only [length_append, length_singleton]
  omega

/-- A name that is not listed has no entry. -/
theorem none_of_not_listed {l : List (String × Kind)} {o : Option (Node μ)} {n : String}
    (hmem : ∀ k, (n, k) ∈ l ↔ o.map Node.kind = some k) (hn : n ∉ l.map Prod.fst) : o = none := by
  cases o with
  | none => rfl
  | some e => exact absurd (mem_map_of_mem (f := Prod.fst) ((hmem e.kind).mpr rfl)) hn

/-- A name in a directory stays where it is while only that entry changes. -/
theorem Pinned.child (h : Pinned (q <+: ·) t p q) (hdir : t.IsDir q)
    (hn : ValidName n) : Pinned (q ++ [n] <+: ·) t (p ++ [n]) (q ++ [n]) := by
  intro t' ht'
  have hplace : t'.place p = .ok q := h t' (ht'.mono fun x hx => (prefix_append q [n]).trans hx)
  have hdir' : t'.IsDir q := (isDir_congr (ht' q not_prefix_append)).mpr hdir
  have := (leads_of_place hplace hdir').place (r := []) (n := n) (by rwa [append_nil]) hn.2.2.1
  rwa [append_nil] at this

/-- What is removed below a name in a directory is removed below the directory. -/
theorem Removed.of_child (h : Removed (q ++ [n]) t t') : Removed q t t' :=
  ⟨h.1.mono fun _ hx => (prefix_append q [n]).trans hx, h.2⟩

/-- A call that removes one entry: `unlink` and `rmdir`. -/
theorem removal_upholds {E : Errno → FileTree μ → Prop} (hpin : Pinned (q <+: ·) t p q)
    {g : FileTree μ → Except Errno (FileTree μ)}
    (hok : ∀ t', g t = .ok t' →
      ∃ q, t.place p = .ok q ∧ ∀ x, t'.get x = if x = q then none else t.get x)
    (herr : ∀ e, g t = .error e ∨ e = .io → E e t) :
    Upholds (Removed q t) (change H.fails g) t
      (fun _ t' => Removed q t t' ∧ t'.get q = none) E := by
  refine upholds_change (fun t' ht' => ?_) fun e he => herr e (he.imp_right And.left)
  obtain ⟨q', hq', hget⟩ := hok t' ht'
  rw [hpin.now] at hq'
  cases hq'
  exact ⟨removed_of_get hget, removed_of_get hget, by rw [hget, if_pos rfl]⟩

/-- `ENOENT` means what it says. -/
theorem get_of_unlink_noent (hplace : t.place p = .ok q) (h : t.unlink p = .error .noent) :
    t.get q = none := by
  unfold FileTree.unlink at h
  rw [hplace] at h
  dsimp only [Bind.bind, Except.bind] at h
  split at h
  next hkind => exact Option.map_eq_none_iff.mp hkind
  · cases h
  · split at h <;> cases h

theorem get_of_rmdir_noent (hplace : t.place p = .ok q) (h : t.rmdir p = .error .noent) :
    t.get q = none := by
  unfold FileTree.rmdir at h
  rw [hplace] at h
  dsimp only [Bind.bind, Except.bind] at h
  split at h
  next hkind => exact Option.map_eq_none_iff.mp hkind
  · split at h <;> cases h
  · cases h

theorem isDir_of_unlink_isdir (hplace : t.place p = .ok q) (h : t.unlink p = .error .isdir) :
    t.IsDir q := by
  unfold FileTree.unlink at h
  rw [hplace] at h
  dsimp only [Bind.bind, Except.bind] at h
  split at h
  · cases h
  next hkind => exact hkind
  · split at h <;> cases h

theorem removeDir_upholds {err : Option Errno} (hpin : Pinned (q <+: ·) t p q) :
    Maintains (Removed q t) (H.removeDir p err) t fun _ t' => t'.get q = none := by
  refine upholds_handle ((removal_upholds hpin (fun _ => rmdir_ok) fun e he => ?_).imp
    fun _ _ hq => upholds_pure hq)
  refine upholds_ite (fun hnoent => upholds_pure ⟨.refl q t, ?_⟩) fun _ => upholds_fail (.refl q t)
  subst hnoent
  obtain he | he := he
  · exact get_of_rmdir_noent hpin.now he
  · cases he

/-- **One entry and what is below it.**  Every path there is shorter than the fuel allows. -/
theorem removeAllFrom_upholds {fuel : Nat} (hfuel : 0 < fuel)
    (hfits : ∀ x, q <+: x → t.get x ≠ none → x.length < q.length + fuel)
    (hpin : Pinned (q <+: ·) t p q) :
    Maintains (Removed q t) (H.removeAllFrom fuel p) t fun _ t' => t'.get q = none := by
  -- Induction on the depth left; the entries of a directory are one level deeper.
  induction fuel generalizing t p q with
  | zero => exact absurd hfuel (lt_irrefl 0)
  | succ fuel ih =>
    refine upholds_handle ((removal_upholds hpin (fun _ => unlink_ok) fun e he => ?_).imp
      fun _ _ hq => upholds_pure hq)
    refine upholds_ite (fun hnoent => upholds_pure ⟨.refl q t, ?_⟩) fun _ => ?_
    · grind [get_of_unlink_noent, hpin.now]
    refine upholds_ite (fun _ => upholds_fail (.refl q t)) fun hisdir => ?_
    have hdir : t.IsDir q := by
      rw [not_not] at hisdir
      subst hisdir
      obtain he | he := he
      · exact isDir_of_unlink_isdir hpin.now he
      · cases he
    have hnames := (leads_of_place hpin.now hdir).dirNames
    have hok : ∀ {α : Type} {g : List String → α} {e : Errno}, (t.dirNames p).map g ≠ .error e := by
      intro α g e he
      rw [hnames] at he
      cases he
    refine upholds_handle (upholds_ask (fun _ _ => ?_) fun e he => ?_)
    · refine upholds_handle (upholds_ask (fun names hread => ?_) fun e he => ?_)
      · -- Every name in the directory is an entry below `q`.
        rw [hnames] at hread
        cases hread
        refine upholds_bind ((upholds_collect (I := Removed q t)
          (J := fun t1 => Removed q t t1 ∧ t1.IsDir q) (fun n hn t1 ⟨ht1, hdir1⟩ => ?_) none
          ⟨.refl q t, hdir⟩).imp fun err t1 ⟨ht1, _⟩ => ?_)
        swap
        · exact (removeDir_upholds (hpin.after ht1.1)).weaken (fun _ hi => ht1.trans hi)
            fun _ _ _ hq => hq
        · have hchild : t.get (q ++ [n]) ≠ none :=
            mem_children.mp (((H.order p).perm _).mem_iff.mp hn)
          have hpos : 0 < fuel := by
            have := hfits _ (prefix_append q [n]) hchild
            simp only [length_append, length_singleton] at this
            omega
          have hfits1 := fits_child (n := n) (P := (t1.get · ≠ none))
            fun x hx hget => hfits x hx (ht1.2.ne_none hget ▸ hget)
          have hpin1 := (hpin.after ht1.1).child hdir1 (validName_of_child hchild)
          refine (ih hpos hfits1 hpin1).mono (fun _ hi => ht1.trans hi.of_child) ?_ ?_
          · exact fun _ t2 h2 => ⟨ht1.trans h2.1.of_child,
              (isDir_congr (h2.1.1 q not_prefix_append)).mpr hdir1⟩
          · exact fun _ t2 h2 => ⟨ht1.trans h2.of_child,
              (isDir_congr (h2.1 q not_prefix_append)).mpr hdir1⟩
      · obtain ⟨rfl, -⟩ := he.resolve_left hok
        exact upholds_ite nofun fun _ => upholds_fail (.refl q t)
    · obtain ⟨rfl, -⟩ := he.resolve_left hok
      refine upholds_ite nofun fun _ => ?_
      refine upholds_ite nofun fun _ => ?_
      exact removeDir_upholds hpin

theorem remove_upholds (hpin : Pinned (q <+: ·) t p q) :
    Upholds (Removed q t) (H.remove p) t (fun _ t' => Removed q t t' ∧ t'.get q = none)
      fun e t' => t' = t ∧ (e = .noent → t.get q = none) := by
  refine upholds_handle ((removal_upholds hpin (fun _ => unlink_ok) fun e he => ?_).imp
    fun _ _ hq => upholds_pure hq)
  refine upholds_handle ((removal_upholds hpin (fun _ => rmdir_ok) fun e' he' => ?_).imp
    fun _ _ hq => upholds_pure hq)
  refine upholds_fail ⟨rfl, fun hnoent => ?_⟩
  split at hnoent
  · grind [get_of_unlink_noent, hpin.now]
  · grind [get_of_rmdir_noent, hpin.now]

/-- **`os.RemoveAll`**: at every moment only entries at and below the path are gone, and when it
    returns nil all of them are. -/
theorem removeAll_upholds (hpin : Pinned (q <+: ·) t (p ++ [n]) q) :
    Maintains (Removed q t) (H.removeAll (p ++ [n])) t fun _ t' => t'.get q = none := by
  refine upholds_handle ((remove_upholds hpin).ends (fun _ _ hq => upholds_pure hq) ?_)
  rintro e _ ⟨rfl, hnoent⟩
  refine upholds_ite (fun he => upholds_pure ⟨.refl q _, hnoent he⟩) fun _ => ?_
  refine upholds_handle (upholds_ask (fun _ _ => ?_) fun e he => ?_)
  · refine upholds_withState (removeAllFrom_upholds (Nat.succ_pos _) (fun x _ hx => ?_) hpin)
    have := length_le_height hx
    omega
  · obtain he | ⟨rfl, -⟩ := he
    · -- The directory that holds the name is there.
      obtain ⟨d, hd⟩ := exists_leads_of_place hpin.now
      rw [dropLast_concat, hd.dirNames] at he
      cases he
    · exact upholds_ite nofun fun _ => upholds_fail (.refl q _)

end Removal

/-! ### What `os.MkdirAll` does -/

section Mkdir

open FileTree

variable {H} {t t' : FileTree μ} {p q d : TreePath} {n : String} {I : FileTree μ → Prop} {mode : μ}

/-- A path leads to nothing new where it leads to a directory. -/
theorem not_mkdir_of_leads (h : t.Leads p q) : t.mkdir p mode ≠ .ok t' := by
  intro hmk
  obtain ⟨q', hq', hadd, -⟩ := addEntry_ok hmk
  have hlink : t.kindAt q' ≠ some .link := by
    rw [kindAt, hadd.2.2.2]
    simp
  have := (target_of_place hq' hlink).symm.trans h.1
  cases this
  exact h.2.ne_none hadd.2.2.2

theorem mkdirOrExists_leads (h : t.Leads p q) : Stays I (H.mkdirOrExists p mode) t := by
  have hdone : ∀ e, Stays I (handle (H.lstat p) (fun k => if k = .dir then pure () else fail e)
      fun _ => fail e : FileProg μ Errno Unit) t := by
    intro e
    refine upholds_handle (upholds_ask (fun k _ => ?_) fun _ _ => upholds_fail rfl)
    exact upholds_ite (fun _ => upholds_pure rfl) fun _ => upholds_fail rfl
  refine upholds_handle (upholds_change (fun t' ht' => ?_) fun e _ => hdone e)
  exact absurd ht' (not_mkdir_of_leads h)

/-- **A directory that exists** is left alone. -/
theorem mkdirAll_leads (h : t.Leads p q) : Stays I (H.mkdirAll p mode) t := by
  unfold mkdirAll
  generalize hlen : p.length = len
  induction len generalizing p q with
  | zero =>
    refine upholds_handle (upholds_ask (fun k _ => ?_) fun _ _ => mkdirOrExists_leads h)
    exact upholds_ite (fun _ => upholds_pure rfl) fun _ => upholds_fail rfl
  | succ len ih =>
    -- The call that looks may have failed, and then the parents are tried as well.
    obtain ⟨p, n, rfl⟩ : ∃ p0 n, p = p0 ++ [n] := by
      refine ⟨p.dropLast, p.getLast (fun hnil => ?_), (dropLast_append_getLast _).symm⟩
      rw [hnil] at hlen
      cases hlen
    obtain ⟨d, hd⟩ := h.dropLast
    have hparents : Stays I (do mkdirAllFrom H mode len (p ++ [n]).dropLast
                                H.mkdirOrExists (p ++ [n]) mode) t := by
      rw [dropLast_concat]
      refine upholds_bind ((ih hd (by simpa using hlen)).imp ?_)
      rintro _ _ rfl
      exact mkdirOrExists_leads h
    refine upholds_handle (upholds_ask (fun k _ => ?_) fun _ _ => hparents)
    exact upholds_ite (fun _ => upholds_pure rfl) fun _ => upholds_fail rfl

/-- One entry is new. -/
def Added (q : TreePath) (e : Node μ) (t t' : FileTree μ) : Prop :=
  ∀ x, t'.get x = if x = q then some e else t.get x

theorem mkdir_upholds {E : Errno → FileTree μ → Prop} (hplace : t.place p = .ok q)
    (hI : ∀ t', Added q (.dir mode) t t' → I t') (hE : ∀ e, E e t) :
    Upholds I (H.mkdir p mode) t (fun _ t' => Added q (.dir mode) t t' ∧ t.get q = none) E := by
  refine upholds_change (fun t' ht' => ?_) fun e _ => hE e
  obtain ⟨q', hq', hadd, hget⟩ := addEntry_ok ht'
  rw [hplace] at hq'
  cases hq'
  exact ⟨hI t' hget, hget, hadd.2.2.2⟩

/-- **A directory that is missing** is added, when its parent exists. -/
theorem mkdirAll_adds (h : t.Leads p d) (hn : n ≠ "..")
    (hget : t.get (d ++ [n]) = none) (hI : ∀ t', Added (d ++ [n]) (.dir mode) t t' → I t') :
    Upholds I (H.mkdirAll (p ++ [n]) mode) t (fun _ t' => Added (d ++ [n]) (.dir mode) t t')
      fun _ t' => t' = t := by
  have hplace : t.place (p ++ [n]) = .ok (d ++ [n]) := by
    have := h.place (r := []) (n := n) (by rw [append_nil]; exact h.2) hn
    rwa [append_nil] at this
  have hkind : t.kindAt (d ++ [n]) = none := by rw [kindAt, hget]; rfl
  have hmissing : ∀ k, t.lstat (p ++ [n]) ≠ .ok k := by
    intro k hk
    rw [lstat_of_place hplace, hkind] at hk
    cases hk
  have hstat : ∀ k, t.stat (p ++ [n]) ≠ .ok k := by
    intro k hk
    rw [stat_of_target (target_of_place hplace (by rw [hkind]; simp)), hkind] at hk
    cases hk
  have hmk : Upholds I (H.mkdirOrExists (p ++ [n]) mode) t
      (fun _ t' => Added (d ++ [n]) (.dir mode) t t') fun _ t' => t' = t := by
    refine upholds_handle ((mkdir_upholds hplace hI fun e => ?_).imp fun _ _ hq =>
      upholds_pure hq.1)
    exact upholds_handle (upholds_ask (fun k hk => absurd hk (hmissing k))
      fun _ _ => upholds_fail rfl)
  have hparents : Upholds I (do mkdirAllFrom H mode p.length (p ++ [n]).dropLast
                                H.mkdirOrExists (p ++ [n]) mode) t
      (fun _ t' => Added (d ++ [n]) (.dir mode) t t') fun _ t' => t' = t := by
    rw [dropLast_concat]
    refine upholds_bind ((mkdirAll_leads h).imp ?_)
    rintro _ _ rfl
    exact hmk
  unfold mkdirAll
  rw [length_append]
  exact upholds_handle (upholds_ask (fun k hk => absurd hk (hstat k)) fun _ _ => hparents)

end Mkdir

end Host

end Booty.Lib
