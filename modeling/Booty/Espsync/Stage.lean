import Booty.Espsync.CopyTree

namespace Booty.Espsync

open Booty.Lib List Option GoError
open Booty.Lib.Prog
open Booty.Lib.FileTree
open Booty.Lib.Host

/-!
# The staged copy

Everything `copyTree` changes lies strictly below the destination, so the source and the way to both
roots stay as they were.

* `Roots` — two paths that lead to directories, neither inside the other.
* `mirrored` — the source as the destination should hold it.
* `copyDir_upholds` — the copy of the source in the staging directory.
-/

/-- Strictly below a directory. -/
def Below (d q : TreePath) : Prop := d <+: q ∧ q ≠ d

/-- **The two roots**: where the paths `S` and `D` lead does not depend on what lies below the
    destination, and neither directory is inside the other. -/
structure Roots (t : FileTree Unit) (S D S' D' : TreePath) : Prop where
  source : ∀ t', SameOutside (Below D') t t' → t'.Leads S S'
  destination : ∀ t', SameOutside (Below D') t t' → t'.Leads D D'
  sourceKind : ∀ t', SameOutside (Below D') t t' → t'.lstat S = t.lstat S
  apart : ¬S' <+: D' ∧ ¬D' <+: S'

/-- An entry of the source that is left out: a directory in its root that is reserved for staging,
    and what is in it. -/
def Reserved (t : FileTree Unit) (S : TreePath) : TreePath → Prop
  | [] => False
  | n :: _ => isStagingName n = true ∧ t.IsDir (S ++ [n])

instance (t : FileTree Unit) (S : TreePath) : (rel : TreePath) → Decidable (Reserved t S rel)
  | [] => inferInstanceAs (Decidable False)
  | _ :: _ => inferInstanceAs (Decidable (_ ∧ _))

/-- **The source as the destination should hold it.** -/
def mirrored (t : FileTree Unit) (S rel : TreePath) : Option (Node Unit) :=
  if Reserved t S rel then none else t.get (S ++ rel)

section Mirrored

variable {t : FileTree Unit} {S r x : TreePath} {n : String}

/-- What is below a reserved directory is reserved. -/
theorem Reserved.append (h : Reserved t S r) (x : TreePath) : Reserved t S (r ++ x) := by
  cases r with
  | nil => exact h.elim
  | cons m r => exact h

/-- What is mirrored is not reserved and is as in the source. -/
theorem mirrored_ne_none (h : mirrored t S r ≠ none) :
    ¬Reserved t S r ∧ t.get (S ++ r) ≠ none ∧ mirrored t S r = t.get (S ++ r) := by grind [mirrored]

/-- What contains an entry of the mirrored tree is a directory in it. -/
theorem mirrored_dir (h : mirrored t S (r ++ x) ≠ none) (hx : x ≠ []) :
    mirrored t S r = some (.dir ()) := by
  obtain ⟨hres, hget, -⟩ := mirrored_ne_none h
  have hres' : ¬Reserved t S r := fun hc => hres (hc.append x)
  rw [← append_assoc] at hget
  obtain ⟨⟨⟩, hm⟩ := isDir_iff.mp (isDir_of_below hx hget)
  rw [mirrored, if_neg hres', hm]

/-- The directories of what is mirrored are mirrored. -/
theorem mirrored_ne_none_of_isPrefix (h : mirrored t S x ≠ none) (hr : r <+: x) :
    mirrored t S r ≠ none := by
  obtain ⟨y, rfl⟩ := hr
  by_cases hy : y = []
  · rwa [hy, append_nil] at h
  · rw [mirrored_dir h hy]
    exact some_ne_none _

theorem validName_of_mirrored (h : mirrored t S (r ++ [n]) ≠ none) : ValidName n := by
  have hget := (mirrored_ne_none h).2.1
  rw [← append_assoc] at hget
  exact validName_of_child hget

/-- No directory of the mirrored tree has the name of a staging directory in its root. -/
theorem mirrored_staging (hg : isStagingName n = true) : mirrored t S [n] ≠ some (.dir ()) := by
  intro h
  obtain ⟨hres, -, heq⟩ := mirrored_ne_none (h ▸ some_ne_none _)
  exact hres ⟨hg, isDir_iff.mpr ⟨(), heq ▸ h⟩⟩

end Mirrored

section Roots

variable {H : Host} {t₀ t t' : FileTree Unit} {S D S' D' r x : TreePath} {n : String}

theorem below_append (h : x ≠ []) : Below D' (D' ++ x) := by
  refine ⟨prefix_append D' x, fun heq => h ?_⟩
  exact append_right_eq_self.mp heq

theorem below_of_isPrefix (h : D' ++ x <+: r) (hx : x ≠ []) : Below D' r := by
  obtain ⟨y, rfl⟩ := h
  rw [append_assoc]
  exact below_append fun hc => hx (append_eq_nil_iff.mp hc).1

theorem below_of_concat (h : D' ++ r ++ [n] <+: x) : Below D' x := by
  rw [append_assoc] at h
  exact below_of_isPrefix h (by simp)

namespace Roots

section

variable (h : Roots t₀ S D S' D') (ht : SameOutside (Below D') t₀ t)
include h ht

/-- The source is as it was. -/
theorem get_source (r : TreePath) : t.get (S' ++ r) = t₀.get (S' ++ r) := by
  refine ht _ fun hbelow => ?_
  obtain hle | hle := prefix_or_prefix_of_prefix hbelow.1 (prefix_append S' r)
  · exact h.apart.2 hle
  · exact h.apart.1 hle

/-- An entry of the source is named by its names. -/
theorem place_source (hr : r ≠ [])
    (hget : t₀.get (S' ++ r) ≠ none) : t.place (S ++ r) = .ok (S' ++ r) := by
  rw [← h.get_source ht] at hget
  obtain ⟨y, n, rfl⟩ := (eq_nil_or_concat' r).resolve_left hr
  rw [← append_assoc] at hget
  rw [(h.source t ht).place (isDir_of_child hget) (validName_of_child hget).2.2.1, append_assoc]

/-- `lstat` in the source tree. -/
theorem lstat_source (hr : r ≠ [])
    {e : Node Unit} (hget : t₀.get (S' ++ r) = some e) : t.lstat (S ++ r) = .ok e.kind := by
  rw [lstat_of_place (h.place_source ht hr (hget ▸ some_ne_none _)), kindAt, h.get_source ht, hget]
  rfl

/-- A file of the source tree. -/
theorem readFile_source (hr : r ≠ [])
    {c : List UInt8} (hget : t₀.get (S' ++ r) = some (.file () c)) :
    t.readFile (S ++ r) = .ok c := by
  have hplace := h.place_source ht hr (hget ▸ some_ne_none _)
  have hlink : t.kindAt (S' ++ r) ≠ some .link := by
    rw [kindAt, h.get_source ht, hget]
    simp [Node.kind]
  exact readFile_of_target (target_of_place hplace hlink) (by rw [h.get_source ht, hget])

/-- A link of the source tree. -/
theorem readlink_source (hr : r ≠ [])
    {s : String} (hget : t₀.get (S' ++ r) = some (.link s)) : t.readlink (S ++ r) = .ok s := by
  simp_all [readlink_of_place, h.place_source, h.get_source]

/-- The way to a directory of the destination. -/
theorem leads
    (hdir : t.IsDir (D' ++ r)) : t.Leads (D ++ r) (D' ++ r) := (h.destination t ht).below hdir

/-- **An entry below the destination** is named by its names, whatever happens to it. -/
theorem pinned (hdir : t.IsDir (D' ++ r)) (hn : ValidName n) :
    Pinned (D' ++ r ++ [n] <+: ·) t (D ++ r ++ [n]) (D' ++ r ++ [n]) := by
  intro t' ht'
  have hbelow : SameOutside (Below D') t t' := ht'.mono fun x hx => below_of_concat hx
  have hdir' : t'.IsDir (D' ++ r) := (isDir_congr (ht' _ not_prefix_append)).mpr hdir
  rw [append_assoc D r [n]]
  exact (h.destination t' (ht.trans hbelow)).place hdir' hn.2.2.1

/-- The place of an entry in the destination. -/
theorem place (hdir : t.IsDir (D' ++ r)) (hn : ValidName n) :
    t.place (D ++ r ++ [n]) = .ok (D' ++ r ++ [n]) := (h.pinned ht hdir hn).now

/-- A name in the destination itself. -/
theorem pinned_root (hn : ValidName n) : Pinned (D' ++ [n] <+: ·) t (D ++ [n]) (D' ++ [n]) := by
  have hdir : t.IsDir (D' ++ []) := by
    rw [append_nil]
    exact (h.destination t ht).2
  simpa using h.pinned ht hdir hn

end

end Roots

/-! ### One entry -/

variable {y : TreePath} {e : Node Unit}

/-- Nothing outside one entry has changed. -/
abbrev OnlyAt (q : TreePath) (t t' : FileTree Unit) : Prop := SameOutside (q <+: ·) t t'

theorem onlyAt_of_added (h : Added x e t t') : OnlyAt x t t' := by
  intro q hq
  rw [h, if_neg]
  rintro rfl
  exact hq prefix_rfl

variable {E : Errno → FileTree Unit → Prop} {I : FileTree Unit → Prop}

theorem settle_upholds {Q : Unit → FileTree Unit → Prop} (hQ : Q () t) (hE : ∀ e, E e t) :
    Upholds I (H.settle : FileProg Unit Errno Unit) t Q E :=
  upholds_ask (fun _ _ => hQ) fun e _ => hE e

/-- A new entry. -/
theorem addEntry_upholds {q : TreePath} (hplace : t.place q = .ok x)
    (hI : ∀ t', Added x e t t' → I t') (hE : ∀ e, E e t) :
    Upholds I (change H.fails fun t => t.addEntry q e) t (fun _ t' => Added x e t t') E := by
  refine upholds_change (fun t' ht' => ?_) fun e _ => hE e
  obtain ⟨q', hq', -, hget⟩ := addEntry_ok ht'
  rw [hplace] at hq'
  cases hq'
  exact ⟨hI t' hget, hget⟩

/-- A change below the destination. -/
theorem sameOutside_below (ht : SameOutside (Below D') t₀ t) (h : OnlyAt (D' ++ y ++ [n]) t t') :
    SameOutside (Below D') t₀ t' := ht.trans (h.mono fun _ hx => below_of_concat hx)

section

variable (h : Roots t₀ S D S' D') (ht : SameOutside (Below D') t₀ t) (hdir : t.IsDir (D' ++ y))
include h ht hdir

/-- Bytes that are written to a file leave everything else alone. -/
theorem extend_upholds {bytes c : List UInt8} (hn : ValidName n)
    (hfile : t.get (D' ++ y ++ [n]) = some (.file () c)) (hE : ∀ e, E e t) :
    Upholds (OnlyAt (D' ++ y ++ [n]) t) (H.extend (D ++ y ++ [n]) bytes) t
      (fun _ t' => Added (D' ++ y ++ [n]) (.file () (c ++ bytes)) t t') E := by
  refine upholds_change (fun t' ht' => ?_) fun e _ => hE e
  obtain ⟨q, ⟨⟩, c', hq, hget, hadd⟩ := extend_ok ht'
  have hlink : t.kindAt (D' ++ y ++ [n]) ≠ some .link := by
    rw [kindAt, hfile]
    simp [Node.kind]
  rw [target_of_place (h.place ht hdir hn) hlink] at hq
  cases hq
  rw [hfile] at hget
  cases hget
  exact ⟨onlyAt_of_added hadd, hadd⟩

/-- The parent of a staged entry exists. -/
theorem mkdirAll_parent {E : EspError → FileTree Unit → Prop}
    {Q : Unit → FileTree Unit → Prop} {g : Errno → EspError} (hQ : Q () t) (hE : ∀ e, E e t) :
    Upholds I (wrapErr g (H.mkdirAll (D ++ y ++ [n]).dropLast ())) t Q E := by
  rw [dropLast_concat]
  refine upholds_wrapErr ((mkdirAll_leads (h.leads ht hdir)).ends ?_ ?_)
  · rintro ⟨⟩ _ rfl
    exact hQ
  · rintro e _ rfl
    exact hE _

/-- **A regular file** is created empty and then written piece by piece. -/
theorem copyFileFromRoot_upholds {c : List UInt8} (hn : ValidName n) (hr : r ≠ [])
    (hsrc : t₀.get (S' ++ r) = some (.file () c)) :
    Upholds (OnlyAt (D' ++ y ++ [n]) t) (copyFileFromRoot H (S ++ r) (D ++ y ++ [n]) r) t
      (fun _ t' => Added (D' ++ y ++ [n]) (.file () c) t t')
      fun _ t' => OnlyAt (D' ++ y ++ [n]) t t' := by
  refine upholds_bind (upholds_look (fun _ => .refl _ t) fun content hcontent => ?_)
  rw [h.readFile_source ht hr hsrc] at hcontent
  cases hcontent
  refine upholds_bind (mkdirAll_parent h ht hdir ?_ fun _ => .refl _ t)
  refine upholds_bind (upholds_wrapErr ((addEntry_upholds (e := .file () []) (h.place ht hdir hn)
    (fun _ => onlyAt_of_added) fun _ => .refl _ t).imp fun _ t1 h1 => ?_))
  -- What is written so far and the pieces that are left make up the content.
  have hloop := upholds_each (I := OnlyAt (D' ++ y ++ [n]) t)
    (E := fun (_ : EspError) t' => OnlyAt (D' ++ y ++ [n]) t t') (t := t1) (l := H.pieces c)
    (f := fun piece => wrapErr (wrapped ("copy " ++ relText r))
      (H.extend (D ++ y ++ [n]) piece))
    (fun rest t' => ∃ w, Added (D' ++ y ++ [n]) (.file () w) t t' ∧ w ++ rest.flatten = c)
    (fun piece rest t' ⟨w, hw, hc⟩ => ?_) ⟨[], h1, H.pieces_flatten c⟩
  · refine upholds_bind (hloop.imp ?_)
    rintro _ t' ⟨w, hw, hc⟩
    rw [flatten_nil, append_nil] at hc
    subst hc
    have hsettled := settle_upholds (H := H) (I := OnlyAt (D' ++ y ++ [n]) t)
      (Q := fun _ t' => Added (D' ++ y ++ [n]) (.file () w) t t')
      (E := fun _ t' => OnlyAt (D' ++ y ++ [n]) t t') hw fun _ => onlyAt_of_added hw
    refine upholds_bind (upholds_wrapErr (hsettled.imp fun _ t'' h'' => ?_))
    exact upholds_wrapErr (settle_upholds h'' fun _ => onlyAt_of_added h'')
  · have honly := onlyAt_of_added hw
    have hdir' : t'.IsDir (D' ++ y) := (isDir_congr (honly _ not_prefix_append)).mpr hdir
    have hfile : t'.get (D' ++ y ++ [n]) = some (.file () w) := by rw [hw, if_pos rfl]
    refine upholds_wrapErr ((extend_upholds h (sameOutside_below ht honly) hdir' hn hfile
      fun _ => honly).mono (fun _ hi => honly.trans hi) (fun _ t'' h'' => ?_) fun _ _ he => he)
    refine ⟨w ++ piece, fun q => ?_, by grind⟩
    rw [h'', hw]
    split <;> rfl

/-- **An entry of the source** is added to the staging directory. -/
theorem copyEntry_upholds (hn : ValidName n) (hnone : t.get (D' ++ y ++ [n]) = none)
    (hr : r ≠ []) (hsrc : t₀.get (S' ++ r) = some e) :
    Upholds (OnlyAt (D' ++ y ++ [n]) t) (copyEntry H (S ++ r) (D ++ y ++ [n]) r e.kind) t
      (fun _ t' => Added (D' ++ y ++ [n]) e t t') fun _ t' => OnlyAt (D' ++ y ++ [n]) t t' := by
  cases e with
  | file m c => exact copyFileFromRoot_upholds h ht hdir hn hr hsrc
  | dir m =>
    refine upholds_wrapErr ((mkdirAll_adds (h.leads ht hdir) hn.2.2.1 hnone
      fun _ => onlyAt_of_added).ends (fun _ _ hq => hq) ?_)
    rintro _ _ rfl
    exact .refl _ _
  | link s =>
    refine upholds_bind (upholds_look (fun _ => .refl _ t) fun link hlink => ?_)
    rw [h.readlink_source ht hr hsrc] at hlink
    cases hlink
    refine upholds_bind (mkdirAll_parent h ht hdir ?_ fun _ => .refl _ t)
    exact upholds_wrapErr (addEntry_upholds (h.place ht hdir hn) (fun _ => onlyAt_of_added)
      fun _ => .refl _ t)

end

/-! ### The walk through the source -/

variable {g : String} {rel : TreePath}

/-- The staged copy of an entry with everything below it. -/
def CopySpec (H : Host) (t₀ : FileTree Unit) (S D S' D' : TreePath) (g : String) (fuel : Nat) :
    Prop :=
  ∀ (r : TreePath) (n : String) (e : Node Unit) (t : FileTree Unit), SameOutside (Below D') t₀ t →
    t₀.get (S' ++ r ++ [n]) = some e → ¬Reserved t₀ S' r → t.IsDir (D' ++ g :: r) →
    (∀ x, r ++ [n] <+: x → t.get (D' ++ g :: x) = none) →
    (∀ x, S' ++ r ++ [n] <+: x → t₀.get x ≠ none → x.length < (S' ++ r ++ [n]).length + fuel) →
    Upholds (OnlyAt (D' ++ g :: r ++ [n]) t)
      (H.walkFrom GoError.sentinel (copyVisit H S (D ++ [g])) fuel (S ++ r ++ [n]) e.kind) t
      (fun _ t' => OnlyAt (D' ++ g :: r ++ [n]) t t' ∧
        ∀ x, r ++ [n] <+: x → t'.get (D' ++ g :: x) = mirrored t₀ S' x)
      fun _ t' => OnlyAt (D' ++ g :: r ++ [n]) t t'

theorem append_cons_concat (x r : TreePath) (g n : String) :
    x ++ g :: (r ++ [n]) = x ++ g :: r ++ [n] := by simp

theorem prefix_concat_of_ne {x : TreePath} {m : String} (hm : rel ++ [m] <+: x)
    (hn : rel ++ [n] <+: x) :
    m = n := by
  obtain ⟨y, rfl⟩ := hm
  obtain ⟨z, hz⟩ := hn
  simp only [append_assoc, append_cancel_left_eq, singleton_append, cons.injEq] at hz
  exact hz.1.symm

theorem exists_concat_isPrefix {x : TreePath} (h : rel <+: x) (hne : x ≠ rel) :
    ∃ n, rel ++ [n] <+: x := by
  obtain ⟨y, rfl⟩ := h
  cases y with
  | nil => exact absurd (append_nil rel) hne
  | cons n y => exact ⟨n, y, by simp⟩

/-- **The entries of a directory**, one after the other. -/
theorem copyChildren_upholds {fuel : Nat} (h : Roots t₀ S D S' D')
    (ih : CopySpec H t₀ S D S' D' g fuel) (ht : SameOutside (Below D') t₀ t)
    (hsrc : t₀.IsDir (S' ++ rel)) (hres : ¬Reserved t₀ S' rel) (hdir : t.IsDir (D' ++ g :: rel))
    (hempty : ∀ x, rel <+: x → x ≠ rel → t.get (D' ++ g :: x) = none)
    (hfits : ∀ x, S' ++ rel <+: x → t₀.get x ≠ none → x.length < (S' ++ rel).length + (fuel + 1)) :
    Maintains (OnlyAt (D' ++ g :: rel) t)
      (do
        let entries ← wrapErr sentinel (H.readDir (S ++ rel))
        each (fun e => H.walkFrom sentinel (copyVisit H S (D ++ [g])) fuel
          (S ++ rel ++ [e.1]) e.2) entries) t
      fun _ t' => t'.get (D' ++ g :: rel) = t.get (D' ++ g :: rel) ∧
        ∀ x, rel <+: x → x ≠ rel → t'.get (D' ++ g :: x) = mirrored t₀ S' x := by
  have hleads : t.Leads (S ++ rel) (S' ++ rel) :=
    (h.source t ht).below ((isDir_congr (h.get_source ht rel)).mpr hsrc)
  obtain ⟨l, hl, hmem, hnodup⟩ := hleads.readDir
  have hkind : ∀ n k, (n, k) ∈ l ↔ t₀.kindAt (S' ++ rel ++ [n]) = some k := by
    intro n k
    rw [hmem, kindAt, kindAt, append_assoc, h.get_source ht]
  refine upholds_bind (upholds_look (fun _ => .refl _ t) fun entries hentries => ?_)
  rw [hl] at hentries
  cases hentries
  refine (upholds_eachName
    (C := fun t1 => OnlyAt (D' ++ g :: rel) t t1 ∧ t1.get (D' ++ g :: rel) = t.get (D' ++ g :: rel))
    (L := fun n t1 => ∀ x, rel ++ [n] <+: x → t1.get (D' ++ g :: x) = none)
    (P := fun n t1 => ∀ x, rel ++ [n] <+: x → t1.get (D' ++ g :: x) = mirrored t₀ S' x)
    hnodup (fun e he t1 h1 hmissing => ?_) ⟨.refl _ t, rfl⟩ (fun e _ x hx => ?_)
    fun n hn x hx => ?_).imp fun _ t' h' => ⟨h'.1.1, h'.1.2, fun x hx hne => ?_⟩
  · -- One entry: the others are not below its name.
    obtain ⟨n, k⟩ := e
    obtain ⟨honly, hself⟩ := h1
    obtain ⟨a, ha, rfl⟩ := map_eq_some_iff.mp ((hkind n k).mp he)
    have ht1 : SameOutside (Below D') t₀ t1 := by
      refine ht.trans (honly.mono fun x hx => below_of_isPrefix hx (cons_ne_nil g rel))
    have hdir1 : t1.IsDir (D' ++ g :: rel) := (isDir_congr hself).mpr hdir
    have hup : ∀ t2, OnlyAt (D' ++ g :: rel ++ [n]) t1 t2 → OnlyAt (D' ++ g :: rel) t t2 :=
      fun _ h2 => honly.trans (h2.mono fun x hx => (prefix_append _ _).trans hx)
    have hother : ∀ {t2 x}, OnlyAt (D' ++ g :: rel ++ [n]) t1 t2 → ¬rel ++ [n] <+: x →
        t2.get (D' ++ g :: x) = t1.get (D' ++ g :: x) := by
      intro t2 x h2 hx
      refine h2 _ fun hc => hx ?_
      rwa [append_assoc, prefix_append_right_inj, cons_append,
        cons_prefix_cons, and_iff_right rfl] at hc
    refine (ih rel n a t1 ht1 ha hres hdir1 hmissing (fits_child hfits)).mono hup
      (fun _ t2 hpost => ?_) fun _ => hup
    obtain ⟨h2, hcopied⟩ := hpost
    refine ⟨⟨hup t2 h2, by rw [hother h2 not_prefix_append, hself]⟩, hcopied, fun m hm => ?_⟩
    have hsame : ∀ x, rel ++ [m] <+: x → t2.get (D' ++ g :: x) = t1.get (D' ++ g :: x) :=
      fun x hx => hother h2 fun hc => hm (prefix_concat_of_ne hx hc)
    exact ⟨fun h x hx => (hsame x hx).trans (h x hx), fun h x hx => (hsame x hx).trans (h x hx)⟩
  · grind [prefix_append]
  · rw [hempty x ((prefix_append _ _).trans hx) fun hc => not_prefix_append (hc ▸ hx)]
    -- A name that is not listed has no entry in the source.
    by_contra hne
    have hsome := (mirrored_ne_none (mirrored_ne_none_of_isPrefix (Ne.symm hne) hx)).2.1
    rw [← append_assoc] at hsome
    exact hsome (none_of_not_listed (hkind n) hn)
  · obtain ⟨n, hn⟩ := exists_concat_isPrefix hx hne
    exact h'.2 n x hn

theorem isDir_iff_kind (h : t.get x = some e) : t.IsDir x ↔ e.kind = .dir := by
  rw [IsDir, kindAt, h, map_some, some.injEq]

/-- The reserved directories are those at the top with the name of a staging directory. -/
theorem reserved_concat (hres : ¬Reserved t₀ S' r) (hsrc : t₀.get (S' ++ r ++ [n]) = some e) :
    Reserved t₀ S' (r ++ [n]) ↔ e.kind = .dir ∧ r = [] ∧ isStagingName n = true := by
  cases r with
  | nil =>
    rw [append_nil] at hsrc
    show isStagingName n = true ∧ t₀.IsDir (S' ++ [n]) ↔ _
    rw [isDir_iff_kind hsrc]
    simp [and_comm]
  | cons m r => aesop

/-- **The walk through the source** stages an entry with everything below it. -/
theorem copyWalk_upholds (h : Roots t₀ S D S' D') (fuel : Nat) :
    CopySpec H t₀ S D S' D' g fuel := by
  induction fuel with
  | zero =>
    intro r n e t _ hsrc _ _ _ hfits
    have := hfits _ prefix_rfl (hsrc ▸ some_ne_none _)
    omega
  | succ fuel ih =>
    intro r n e t ht hsrc hres hdir hempty hfits
    have hne : r ++ [n] ≠ [] := by simp
    have hsrc' : t₀.get (S' ++ (r ++ [n])) = some e := by rw [← append_assoc, hsrc]
    have hvalid : ValidName n := validName_of_child (hsrc ▸ some_ne_none _)
    have hrel : (S ++ r ++ [n]).drop S.length = r ++ [n] := by
      rw [append_assoc, drop_left]
    have htarget : D ++ [g] ++ (r ++ [n]) = D ++ g :: r ++ [n] := by simp
    refine upholds_bind ?_
    unfold copyVisit
    rw [hrel]
    refine upholds_ite (fun hc => absurd hc hne) fun _ => ?_
    rw [dropLast_concat, getLastD_concat, htarget]
    refine upholds_ite (fun hskip => ?_) fun hskip => ?_
    · -- A reserved directory is skipped with everything in it.
      refine upholds_pure (upholds_ite (fun _ => upholds_pure ⟨.refl _ t, fun x hx => ?_⟩)
        fun hc => absurd (Or.inl rfl) hc)
      have hreserved := (reserved_concat hres hsrc).mpr hskip
      obtain ⟨y, rfl⟩ := hx
      rw [hempty _ (prefix_append _ _), mirrored, if_pos (hreserved.append y)]
    · have hnot : ¬Reserved t₀ S' (r ++ [n]) := fun hc => hskip ((reserved_concat hres hsrc).mp hc)
      refine upholds_bind (upholds_look (fun _ => .refl _ t) fun info hinfo => ?_)
      rw [append_assoc, h.lstat_source ht hne hsrc'] at hinfo
      cases hinfo
      have hentry := copyEntry_upholds (H := H) (y := g :: r) h ht hdir hvalid (by grind) hne hsrc'
      rw [← append_assoc] at hentry
      refine upholds_bind (hentry.imp fun _ t1 h1 => ?_)
      have honly := onlyAt_of_added h1
      have hself : t1.get (D' ++ g :: (r ++ [n])) = mirrored t₀ S' (r ++ [n]) := by
        rw [mirrored, if_neg hnot, hsrc', h1, if_pos (by simp)]
      have hbare : ∀ x, r ++ [n] <+: x → x ≠ r ++ [n] → t1.get (D' ++ g :: x) = none := by
        intro x hx hxne
        rw [h1, if_neg (fun hc => hxne ?_)]
        · exact hempty x hx
        · simpa using hc
      refine upholds_pure (upholds_ite (fun hleaf => upholds_pure ⟨honly, fun x hx => ?_⟩)
        fun hc => ?_)
      · -- Nothing is below what is no directory.
        obtain hleaf | hleaf := hleaf
        · cases hleaf
        by_cases hxe : x = r ++ [n]
        · rw [hxe, hself]
        · rw [hbare x hx hxe]
          by_contra hmir
          obtain ⟨y, rfl⟩ := hx
          have hy : y ≠ [] := fun hy => hxe (by rw [hy, append_nil])
          have := mirrored_dir (Ne.symm hmir) hy
          rw [mirrored, if_neg hnot, hsrc', some.injEq] at this
          exact hleaf (by rw [this]; rfl)
      · rw [not_or, not_not] at hc
        have hkind : t₀.IsDir (S' ++ (r ++ [n])) := (isDir_iff_kind hsrc').mpr hc.2
        have hdir1 : t1.IsDir (D' ++ g :: (r ++ [n])) :=
          (isDir_iff_kind (by rw [hself, mirrored, if_neg hnot, hsrc'])).mpr hc.2
        have ht1 := sameOutside_below (y := g :: r) ht honly
        have hchildren := copyChildren_upholds h ih ht1 hkind hnot hdir1 hbare
          (by rw [← append_assoc]; exact hfits)
        rw [← append_assoc S r [n]] at hchildren
        have hpath := append_cons_concat D' r g n
        rw [hpath] at hchildren
        refine hchildren.weaken (fun _ hi => honly.trans hi) fun _ t' h' ⟨hself', hall⟩ x hx => ?_
        by_cases hxe : x = r ++ [n]
        · rw [hxe, hpath, hself', ← hpath, hself]
        · exact hall x hx hxe

/-- What `copyDir` puts into the staging directory.  A source path that is itself a symbolic link is
    walked as one entry, so nothing is staged. -/
def staged (t : FileTree Unit) (S S' : TreePath) : TreePath → Option (Node Unit)
  | [] => some (.dir ())
  | n :: rel => if t.lstat S = .ok .dir then mirrored t S' (n :: rel) else none

/-- The staged tree is the mirrored one. -/
theorem staged_of_ne {x : TreePath} (hx : x ≠ []) :
    staged t S S' x = if t.lstat S = .ok .dir then mirrored t S' x else none := by
  cases x with
  | nil => exact absurd rfl hx
  | cons n x => rfl

/-- **The source is staged**, and nothing outside the staging directory changes. -/
theorem copyDir_upholds (h : Roots t₀ S D S' D') (ht : SameOutside (Below D') t₀ t)
    (hdir : t.IsDir (D' ++ [g])) (hempty : ∀ x, x ≠ [] → t.get (D' ++ g :: x) = none) :
    Maintains (OnlyAt (D' ++ [g]) t) (copyDir H S (D ++ [g])) t fun _ t' =>
      t'.IsDir (D' ++ [g]) ∧ ∀ x, x ≠ [] → t'.get (D' ++ g :: x) = staged t₀ S S' x := by
  refine upholds_bind (upholds_look (fun _ => .refl _ t) fun _ _ => ?_)
  refine upholds_bind (upholds_look (fun _ => .refl _ t) fun _ _ => ?_)
  refine upholds_wrapErr (upholds_bind (upholds_look (fun _ => .refl _ t) fun k hk => ?_))
  rw [h.sourceKind _ ht] at hk
  refine upholds_withState (upholds_bind ?_)
  unfold copyVisit
  rw [drop_length]
  refine upholds_pure (upholds_ite (fun hc => upholds_pure ⟨.refl _ t, hdir, fun x hx => ?_⟩)
    fun hc => ?_)
  · grind [staged_of_ne]
  · rw [not_or] at hc
    have hsrc := (h.source _ (.refl _ t₀)).2
    have hfits : ∀ x, S' ++ [] <+: x → t₀.get x ≠ none →
        x.length < (S' ++ []).length + (t.height + 1) := by
      rintro x ⟨y, rfl⟩ hget
      rw [append_nil] at hget ⊢
      rw [← h.get_source ht] at hget
      have := length_le_height hget
      omega
    rw [← append_nil S'] at hsrc
    have hchildren := copyChildren_upholds (H := H) h (copyWalk_upholds h t.height) ht hsrc
      (fun hc => hc) hdir (fun x _ hx => hempty x hx) hfits
    rw [append_nil] at hchildren
    refine hchildren.imp fun _ t1 ⟨h1, hself, hall⟩ => ⟨h1, ?_, fun x hx => ?_⟩
    · exact (isDir_congr hself).mpr hdir
    · grind [staged_of_ne]

/-! ### Before the copy -/

/-- The checks of the roots change nothing. -/
theorem validateRoots_upholds : Stays I (validateRoots H S D) t := by
  refine upholds_ite (fun _ => upholds_fail rfl) fun _ => ?_
  refine upholds_bind (upholds_look (fun _ => rfl) fun k _ => ?_)
  refine upholds_bind (upholds_look (fun _ => rfl) fun k' _ => ?_)
  refine upholds_ite (fun _ => upholds_fail rfl) fun _ => ?_
  refine upholds_bind (upholds_look (fun _ => rfl) fun p _ => ?_)
  refine upholds_bind (upholds_look (fun _ => rfl) fun p' _ => ?_)
  exact upholds_ite (fun _ => upholds_fail rfl) fun _ => upholds_pure rfl

/-- The staging directories of a destination: a name in its root with the reserved start that was a
    directory or was free, and everything below it. -/
def StagingArea (t : FileTree Unit) (D' x : TreePath) : Prop :=
  ∃ n, isStagingName n = true ∧ (t.get (D' ++ [n]) = none ∨ t.IsDir (D' ++ [n])) ∧ D' ++ [n] <+: x

theorem below_of_stagingArea (h : StagingArea t D' x) : Below D' x := by
  obtain ⟨n, -, -, hx⟩ := h
  exact below_of_isPrefix hx (cons_ne_nil n [])

/-- **Stale staging directories** are removed, and nothing else. -/
theorem cleanStaging_upholds (h : Roots t S D S' D') :
    Upholds (SameOutside (StagingArea t D') t) (cleanStaging H D) t
      (fun _ t' => SameOutside (StagingArea t D') t t')
      fun _ t' => SameOutside (StagingArea t D') t t' := by
  have hleads := h.destination t (.refl _ t)
  obtain ⟨l, hl, hmem, -⟩ := hleads.readDir
  refine upholds_bind (upholds_look (fun _ => .refl _ t) fun entries hentries => ?_)
  rw [hl] at hentries
  cases hentries
  refine (upholds_each (fun rest t1 => (∀ e ∈ rest, e ∈ l) ∧ SameOutside (StagingArea t D') t t1)
    (fun e rest t1 ⟨hrest, h1⟩ => ?_) ⟨fun _ he => he, .refl _ t⟩).imp fun _ t' hJ => hJ.2
  have htail : ∀ e' ∈ rest, e' ∈ l := fun e' he' => hrest e' (mem_cons_of_mem e he')
  refine upholds_ite (fun _ => upholds_pure ⟨htail, h1⟩) fun hc => ?_
  rw [not_or, not_not, not_not] at hc
  have hkind : t.IsDir (D' ++ [e.1]) :=
    ((hmem e.1 e.2).mp (hrest e mem_cons_self)).trans (by rw [hc.1])
  have ht1 : SameOutside (Below D') t t1 := h1.mono fun _ => below_of_stagingArea
  have hvalid := validName_of_child hkind.ne_none
  have harea : ∀ t2, Removed (D' ++ [e.1]) t1 t2 → SameOutside (StagingArea t D') t t2 :=
    fun _ h2 => h1.trans (h2.1.mono fun _ hx => ⟨e.1, hc.2, .inr hkind, hx⟩)
  exact upholds_wrapErr ((removeAll_upholds (h.pinned_root ht1 hvalid)).mono harea
    (fun _ t2 h2 => ⟨htail, harea t2 h2.1⟩) fun _ => harea)

theorem isStagingName_append (s : String) : isStagingName (stagingPrefix ++ s) = true := by
  unfold isStagingName
  rw [String.toList_append, isPrefixOf_iff_prefix]
  exact prefix_append _ _

/-- **The new staging directory** has a reserved name that was free. -/
theorem mkdirTemp_upholds (h : Roots t₀ S D S' D') (ht : SameOutside (Below D') t₀ t)
    (hI : ∀ n t', isStagingName n = true → t.get (D' ++ [n]) = none →
      Added (D' ++ [n]) (.dir ()) t t' → I t') :
    Upholds I (H.mkdirTemp D stagingPrefix ()) t
      (fun n t' => isStagingName n = true ∧ ValidName n ∧ t.get (D' ++ [n]) = none ∧
        Added (D' ++ [n]) (.dir ()) t t')
      fun _ t' => t' = t := by
  have hleads := h.destination t ht
  unfold mkdirTemp
  generalize (10000 : Nat) = tries
  generalize (0 : Nat) = i
  induction tries generalizing i with
  | zero => exact upholds_fail rfl
  | succ tries ih =>
    refine upholds_handle (upholds_change (fun t' ht' => ?_) fun e _ => ?_)
    · obtain ⟨q, hq, hadd, hget⟩ := addEntry_ok ht'
      set n := stagingPrefix ++ toString (H.random i) with hn
      have hname : n ≠ ".." := by
        intro hc
        have := isStagingName_append (toString (H.random i))
        rw [← hn, hc] at this
        revert this
        decide
      have hplace := hleads.place (r := []) (n := n) (by rw [append_nil]; exact hleads.2) hname
      rw [append_nil, nil_append, hq] at hplace
      cases hplace
      have hfree := canAdd_concat.mp hadd
      have hs : isStagingName n = true := isStagingName_append _
      exact ⟨hI n t' hs hfree.2.2 hget, upholds_pure ⟨hs, hfree.2.1, hfree.2.2, hget⟩⟩
    · exact upholds_ite (fun _ => ih _) fun _ => upholds_fail rfl

end Roots

end Booty.Espsync
