import Booty.Lib.GoMap
import Booty.Lib.SortBy

namespace Booty.Lib

open List Option GoMap

/-!
# File trees

A file tree maps the path of each entry, as its names from the root down, to a directory, a regular
file or a symbolic link.  The invariant is part of the type: the root is a directory, and what
contains an entry is a directory.

* `FileTree.add`, `FileTree.put`, `FileTree.remove` — the three changes that all operations are made
  of, with what a lookup finds after each.
* `FileTree.isDir_of_isPrefix` — every path above an entry is a directory.
* `FileTree.mem_children` — the names in a directory.
* `SameOutside`, `Shrinks` — what a change left alone.
-/

/-- The names from the root of a tree to an entry. -/
abbrev TreePath := List String

/-- An entry of a tree; `μ` is what a directory and a regular file carry besides. -/
inductive Node (μ : Type)
  | dir (mode : μ)
  | file (mode : μ) (content : List UInt8)
  | link (target : String)
deriving DecidableEq, Repr

/-- The type of an entry. -/
inductive Kind
  | dir
  | file
  | link
deriving DecidableEq, Repr

variable {μ : Type}

/-- The kind of a node. -/
def Node.kind : Node μ → Kind
  | .dir _ => .dir
  | .file _ _ => .file
  | .link _ => .link

theorem Node.kind_eq_dir {n : Node μ} : n.kind = .dir ↔ ∃ m, n = .dir m := by
  cases n <;> simp [kind]

/-- A name that an entry can have. -/
def ValidName (n : String) : Prop := n ≠ "" ∧ n ≠ "." ∧ n ≠ ".." ∧ '/' ∉ n.toList

instance (n : String) : Decidable (ValidName n) := inferInstanceAs (Decidable (_ ∧ _))

/-- A finite tree. -/
structure FileTree (μ : Type) where
  entries : GoMap TreePath (Node μ)
  root : ∃ m, entries.get [] = some (.dir m)
  closed : ∀ p n, entries.get (p ++ [n]) ≠ none → ∃ m, entries.get p = some (.dir m)
  named : ∀ p n, entries.get (p ++ [n]) ≠ none → ValidName n

namespace FileTree

variable {t t' t'' : FileTree μ} {p q d : TreePath} {n : String}

/-- The entry at a path. -/
def get (t : FileTree μ) (p : TreePath) : Option (Node μ) := t.entries.get p

/-- The type of the entry at a path. -/
def kindAt (t : FileTree μ) (p : TreePath) : Option Kind := (t.get p).map Node.kind

/-- There is a directory at the path. -/
def IsDir (t : FileTree μ) (p : TreePath) : Prop := t.kindAt p = some .dir

instance (t : FileTree μ) (p : TreePath) : Decidable (t.IsDir p) :=
  inferInstanceAs (Decidable (_ = _))

theorem isDir_iff : t.IsDir p ↔ ∃ m, t.get p = some (.dir m) := by
  unfold IsDir kindAt
  constructor
  · simp_all [Node.kind_eq_dir.mp]
  · aesop

theorem IsDir.ne_none (h : t.IsDir p) : t.get p ≠ none := by
  obtain ⟨m, hm⟩ := isDir_iff.mp h
  rw [hm]
  exact some_ne_none _

theorem isDir_congr (h : t'.get p = t.get p) : t'.IsDir p ↔ t.IsDir p := by
  unfold IsDir kindAt
  rw [h]

theorem isDir_root (t : FileTree μ) : t.IsDir [] := isDir_iff.mpr t.root

/-- What has a child is a directory. -/
theorem isDir_of_child (h : t.get (p ++ [n]) ≠ none) : t.IsDir p := isDir_iff.mpr (t.closed p n h)

/-- The name of an entry is valid. -/
theorem validName_of_child (h : t.get (p ++ [n]) ≠ none) : ValidName n := t.named p n h

/-- **Every path above an entry is a directory.** -/
theorem isDir_of_below {r : TreePath} (hr : r ≠ []) (h : t.get (p ++ r) ≠ none) : t.IsDir p := by
  induction r using reverseRecOn with
  | nil => exact absurd rfl hr
  | append_singleton r n ih =>
    rw [← append_assoc] at h
    have hdir := isDir_of_child h
    by_cases hr' : r = []
    · subst hr'
      rwa [append_nil] at hdir
    · exact ih hr' hdir.ne_none

/-- So there is something at every path above it. -/
theorem ne_none_of_below {r : TreePath} (h : t.get (p ++ r) ≠ none) : t.get p ≠ none := by
  by_cases hr : r = []
  · rwa [hr, append_nil] at h
  · exact (isDir_of_below hr h).ne_none

/-- Nothing is below a path that is no directory. -/
theorem get_below_eq_none {r : TreePath} (hr : r ≠ []) (h : ¬t.IsDir p) :
    t.get (p ++ r) = none := by
  by_contra hne
  exact h (isDir_of_below hr hne)

/-! ### Directories -/

/-- The names in a directory. -/
def children (t : FileTree μ) (d : TreePath) : List String :=
  (t.entries.keys.filter fun p => p ≠ [] ∧ p.dropLast = d).filterMap List.getLast?

/-- The children are the entries below. -/
theorem mem_children : n ∈ t.children d ↔ t.get (d ++ [n]) ≠ none := by
  unfold children
  rw [mem_filterMap, ← isSome_iff_ne_none, isSome_iff_exists]
  constructor
  · rintro ⟨p, hp, hn⟩
    obtain ⟨hkey, hcond⟩ := mem_filter.mp hp
    obtain ⟨hne, hd⟩ := of_decide_eq_true hcond
    have hpath : d ++ [n] = p := by
      rw [← hd]
      rw [getLast?_eq_some_getLast hne, some.injEq] at hn
      rw [← hn]
      exact dropLast_append_getLast hne
    rw [hpath]
    exact mem_keys_iff.mp hkey
  · intro hsome
    refine ⟨d ++ [n], mem_filter.mpr ⟨mem_keys_iff.mpr hsome, ?_⟩, ?_⟩
    · simp
    · simp

theorem nodup_children (t : FileTree μ) (d : TreePath) : (t.children d).Nodup := by
  -- Each name stands for the path it is the end of.
  have hmap : (t.children d).map (fun n => d ++ [n]) =
      t.entries.keys.filter fun p => p ≠ [] ∧ p.dropLast = d := by
    unfold children
    rw [map_filterMap]
    refine (filterMap_congr fun p hp => ?_).trans filterMap_some
    obtain ⟨hne, rfl⟩ := of_decide_eq_true (mem_filter.mp hp).2
    rw [getLast?_eq_some_getLast hne, map_some, dropLast_append_getLast hne]
  refine Nodup.of_map (fun n => d ++ [n]) ?_
  rw [hmap]
  exact t.entries.keys_nodup.filter _

/-- The length of the longest path. -/
def height (t : FileTree μ) : Nat := (t.entries.keys.map List.length).foldr max 0

/-- No path is longer than the tree is high. -/
theorem length_le_height (h : t.get p ≠ none) : p.length ≤ t.height := by
  have hmem : p ∈ t.entries.keys :=
    mem_keys_iff.mpr (isSome_iff_exists.mp (isSome_iff_ne_none.mpr h))
  unfold height
  generalize t.entries.keys = keys at hmem
  induction keys with
  | nil => cases hmem
  | cons k keys ih => grind

/-! ### Changes -/

/-- A new entry can stand at the path. -/
def CanAdd (t : FileTree μ) (p : TreePath) : Prop :=
  p ≠ [] ∧ t.IsDir p.dropLast ∧ ValidName (p.getLastD "") ∧ t.get p = none

instance (t : FileTree μ) (p : TreePath) : Decidable (t.CanAdd p) :=
  have : Decidable (t.get p = none) := decidable_of_iff _ Option.isNone_iff_eq_none
  inferInstanceAs (Decidable (_ ∧ _))

/-- An entry can be added to a directory that does not have the name. -/
theorem canAdd_concat :
    t.CanAdd (d ++ [n]) ↔ t.IsDir d ∧ ValidName n ∧ t.get (d ++ [n]) = none := by
  unfold CanAdd
  simp

/-- The tree with a new entry. -/
def add (t : FileTree μ) (p : TreePath) (e : Node μ) (h : t.CanAdd p) : FileTree μ where
  entries := t.entries.set p e
  root := by simp [t.root, GoMap.get_set_of_ne, Ne.symm, h.1]
  closed := by
    intro p' n' hget
    have hdir : t.IsDir p' := by
      by_cases heq : p' ++ [n'] = p
      · grind [h.2.1, List.dropLast_concat]
      · rw [GoMap.get_set_of_ne heq] at hget
        exact isDir_of_child hget
    have hne : p' ≠ p := by
      rintro rfl
      exact hdir.ne_none h.2.2.2
    rw [GoMap.get_set_of_ne hne]
    exact isDir_iff.mp hdir
  named := by
    intro p' n' hget
    by_cases heq : p' ++ [n'] = p
    · grind [h.2.2.1, List.getLastD_concat]
    · grind [GoMap.get_set_of_ne, t.named]

/-- One entry is new. -/
theorem get_add {e : Node μ} (h : t.CanAdd p) (q : TreePath) :
    (t.add p e h).get q = if q = p then some e else t.get q := get_set _ _ _ _

/-- The tree with another entry that is no directory in the place of one. -/
def put (t : FileTree μ) (p : TreePath) (e : Node μ)
    (h : t.get p ≠ none ∧ ¬t.IsDir p ∧ e.kind ≠ .dir) : FileTree μ where
  entries := t.entries.set p e
  root := by
    obtain ⟨m, hm⟩ := t.root
    have hne : p ≠ [] := by
      rintro rfl
      exact h.2.1 t.isDir_root
    exact ⟨m, by rw [GoMap.get_set_of_ne (Ne.symm hne), hm]⟩
  closed := by
    intro p' n' hget
    have hdir : t.IsDir p' := by
      by_cases heq : p' ++ [n'] = p
      · exact isDir_of_child (heq ▸ h.1)
      · rw [GoMap.get_set_of_ne heq] at hget
        exact isDir_of_child hget
    have hne : p' ≠ p := by
      rintro rfl
      exact h.2.1 hdir
    rw [GoMap.get_set_of_ne hne]
    exact isDir_iff.mp hdir
  named := by
    intro p' n' hget
    by_cases heq : p' ++ [n'] = p
    · exact t.named p' n' (heq ▸ h.1)
    · grind [GoMap.get_set_of_ne, t.named]

/-- One entry is replaced. -/
theorem get_put {e : Node μ} (h : t.get p ≠ none ∧ ¬t.IsDir p ∧ e.kind ≠ .dir) (q : TreePath) :
    (t.put p e h).get q = if q = p then some e else t.get q := get_set _ _ _ _

/-- The tree without an entry that contains nothing. -/
def remove (t : FileTree μ) (p : TreePath) (h : p ≠ [] ∧ t.children p = []) : FileTree μ where
  entries := t.entries.delete p
  root := by simp [t.root, GoMap.get_delete_of_ne, Ne.symm, h.1]
  closed := by
    intro p' n' hget
    have hold : t.get (p' ++ [n']) ≠ none := by
      intro hnone
      rw [GoMap.get_delete] at hget
      split at hget
      · exact hget rfl
      · exact hget hnone
    have hne : p' ≠ p := by
      rintro rfl
      exact List.ne_nil_of_mem (mem_children.mpr hold) h.2
    rw [GoMap.get_delete_of_ne hne]
    exact t.closed p' n' hold
  named := by grind [t.named]

/-- One entry is gone. -/
theorem get_remove (h : p ≠ [] ∧ t.children p = []) (q : TreePath) :
    (t.remove p h).get q = if q = p then none else t.get q := get_delete _ _ _

/-- The tree of a root directory. -/
def empty (m : μ) : FileTree μ where
  entries := (∅ : GoMap TreePath (Node μ)).set [] (.dir m)
  root := ⟨m, GoMap.get_set_self _ _ _⟩
  closed := by simp [GoMap.get_set_of_ne, GoMap.get_empty]
  named := by simp [GoMap.get_set_of_ne, GoMap.get_empty]

/-- A tree from the entries of its directories, each after what contains it. -/
def ofList (m : μ) (l : List (TreePath × Node μ)) : FileTree μ :=
  l.foldl (fun t e => if h : t.CanAdd e.1 then t.add e.1 e.2 h else t) (empty m)

/-! ### What a change left alone -/

/-- The trees agree outside a region. -/
def SameOutside (R : TreePath → Prop) (t t' : FileTree μ) : Prop := ∀ q, ¬R q → t'.get q = t.get q

/-- Some entries are gone. -/
def Shrinks (t t' : FileTree μ) : Prop := ∀ q, t'.get q = t.get q ∨ t'.get q = none

variable {R R' : TreePath → Prop}

theorem SameOutside.refl (R : TreePath → Prop) (t : FileTree μ) : SameOutside R t t :=
  fun _ _ => rfl

/-- Two changes within a region. -/
theorem SameOutside.trans (h : SameOutside R t t') (h' : SameOutside R t' t'') :
    SameOutside R t t'' := fun q hq => (h' q hq).trans (h q hq)

theorem SameOutside.mono (h : SameOutside R t t') (hR : ∀ q, R q → R' q) : SameOutside R' t t' :=
  fun q hq => h q fun hr => hq (hR q hr)

theorem Shrinks.refl (t : FileTree μ) : Shrinks t t := fun _ => .inl rfl

theorem Shrinks.trans (h : Shrinks t t') (h' : Shrinks t' t'') : Shrinks t t'' := by
  intro q
  obtain hq | hq := h' q
  · rw [hq]
    exact h q
  · exact .inr hq

/-- What is left is as it was. -/
theorem Shrinks.ne_none (h : Shrinks t t') (hq : t'.get q ≠ none) : t.get q = t'.get q :=
  (h q).elim Eq.symm fun hnone => absurd hnone hq

end FileTree

end Booty.Lib
