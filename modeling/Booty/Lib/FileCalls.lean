import Booty.Lib.FileTree

namespace Booty.Lib

open List

/-!
# File system calls

The calls of a POSIX file system on a tree.  A path is resolved name by name from the root, through
the symbolic links on the way; whether a link in the last place is followed depends on the call.

* `FileTree.resolve` — path resolution, with at most forty links.
* `FileTree.Leads` — a path that leads to a directory; `Leads.place`, `Leads.target` — what lies
  below that directory is found by its names.
* `lstat`, `stat`, `readDir`, `readlink`, `readFile` — calls that only look.
* `mkdir`, `create`, `extend`, `symlink`, `unlink`, `rmdir`, `rename` — calls that change the tree,
  each with its result at a path whose directory is known.
-/

/-- The errors of the calls; `io` is a failure that the tree does not explain. -/
inductive Errno
  | noent
  | exist
  | notdir
  | isdir
  | notempty
  | loop
  | inval
  | busy
  | io
deriving DecidableEq, Repr

/-- Where a walk along the names of a path ends. -/
inductive Walked
  | found (p : TreePath)
  | link (dir : TreePath) (target : String) (rest : List String)
  | failed (e : Errno)

/-- The names of a path text. -/
def pathNames (s : String) : List String :=
  ((s.toList.splitOn '/').map String.ofList).filter fun n => n ≠ "" ∧ n ≠ "."

/-- Names are sorted by their characters. -/
def nameKey (n : String) : List Nat := n.toList.map Char.toNat

/-- An absolute path text. -/
def isAbsolute (s : String) : Bool := s.toList.head? == some '/'

namespace FileTree

variable {μ : Type} {t t' : FileTree μ} {p q d : TreePath} {n : String}

/-! ### TreePath resolution -/

/-- Walk along the names of a path up to the first link that is to be followed. -/
def walkNames (t : FileTree μ) (follow : Bool) (cur : TreePath) : List String → Walked
  | [] => .found cur
  | n :: rest =>
    match t.get cur with
    | none => .failed .noent
    | some (.file _ _) => .failed .notdir
    | some (.link _) => .failed .notdir
    | some (.dir _) =>
      if n = ".." then t.walkNames follow cur.dropLast rest
      else
        match t.get (cur ++ [n]) with
        | none => if rest = [] then .found (cur ++ [n]) else .failed .noent
        | some (.link target) =>
          if rest = [] ∧ ¬follow then .found (cur ++ [n]) else .link cur target rest
        | some (.dir _) => t.walkNames follow (cur ++ [n]) rest
        | some (.file _ _) => t.walkNames follow (cur ++ [n]) rest

/-- Resolve the names of a path, with at most `links` links on the way. -/
def resolve (t : FileTree μ) (follow : Bool) : Nat → TreePath → List String → Except Errno TreePath
  | links, cur, names =>
    match t.walkNames follow cur names with
    | .found p => .ok p
    | .failed e => .error e
    | .link dir target rest =>
      match links with
      | 0 => .error .loop
      | links + 1 =>
        t.resolve follow links (if isAbsolute target then [] else dir) (pathNames target ++ rest)

/-- The entry that a path names; a link in the last place is the entry itself. -/
def place (t : FileTree μ) (p : TreePath) : Except Errno TreePath := t.resolve false 40 [] p

/-- The entry that a path leads to. -/
def target (t : FileTree μ) (p : TreePath) : Except Errno TreePath := t.resolve true 40 [] p

variable {follow : Bool} {links : Nat} {cur : TreePath} {names : List String}

theorem resolve_of_found (h : t.walkNames follow cur names = .found p) :
    t.resolve follow links cur names = .ok p := by
  unfold resolve
  rw [h]

variable {r : TreePath}

/-- **Names below a directory** are walked one by one. -/
theorem walkNames_concat (hdir : t.IsDir (q ++ r)) (hn : n ≠ "..")
    (hlink : follow = true → t.kindAt (q ++ r ++ [n]) ≠ some .link) :
    t.walkNames follow q (r ++ [n]) = .found (q ++ r ++ [n]) := by
  -- Induction on the names above the last one: each is a directory, so none is a link.
  induction r generalizing q with
  | nil =>
    rw [append_nil] at hdir hlink ⊢
    obtain ⟨m, hm⟩ := isDir_iff.mp hdir
    rw [nil_append, walkNames, hm]
    dsimp only
    rw [if_neg hn]
    cases hget : t.get (q ++ [n]) with
    | none => rfl
    | some e =>
      cases e with
      | dir m' => rfl
      | file m' c => rfl
      | link target =>
        have hfalse : ¬follow = true := fun hf => hlink hf (by rw [kindAt, hget]; rfl)
        exact if_pos ⟨rfl, hfalse⟩
  | cons m r ih =>
    have hcons : q ++ m :: r = q ++ [m] ++ r := by simp
    rw [hcons] at hdir hlink ⊢
    have hm : t.IsDir (q ++ [m]) := by
      by_cases hr : r = []
      · rwa [hr, append_nil] at hdir
      · exact isDir_of_below hr hdir.ne_none
    obtain ⟨a, ha⟩ := isDir_iff.mp hm
    obtain ⟨b, hb⟩ := isDir_iff.mp (isDir_of_child hm.ne_none)
    rw [cons_append, walkNames, hb]
    dsimp only
    rw [if_neg (validName_of_child hm.ne_none).2.2.1, ha]
    exact ih hdir hlink

variable {rest : List String}

/-- A walk that goes on in the directory where the first names end. -/
theorem walkNames_append_found (h : t.walkNames true cur names = .found q) (hdir : t.IsDir q) :
    t.walkNames follow cur (names ++ rest) = t.walkNames follow q rest := by
  induction names generalizing cur with
  | nil =>
    cases h
    rfl
  | cons n names ih =>
    rw [walkNames] at h
    rw [cons_append, walkNames]
    split at h
    · cases h
    · cases h
    · cases h
    split at h
    next hn =>
      rw [if_pos hn]
      exact ih h
    next hn =>
      rw [if_neg hn]
      split at h
      next hget =>
        -- The last name is missing, so it is no directory.
        grind [hdir.ne_none]
      · grind
      · exact ih h
      · exact ih h

/-- A walk that comes to a link among the first names. -/
theorem walkNames_append_link {dir : TreePath} {s : String}
    {more : List String} (h : t.walkNames true cur names = .link dir s more) (hrest : rest ≠ []) :
    t.walkNames follow cur (names ++ rest) = .link dir s (more ++ rest) := by
  induction names generalizing cur with
  | nil => cases h
  | cons n names ih =>
    rw [walkNames] at h
    rw [cons_append, walkNames]
    split at h
    · cases h
    · cases h
    · cases h
    split at h
    next hn =>
      rw [if_pos hn]
      exact ih h
    next hn => aesop

/-- **Going on from a directory**: the names that follow a path are resolved from where it leads. -/
theorem resolve_append (follow : Bool)
    (h : t.resolve true links cur names = .ok q) (hdir : t.IsDir q) (hrest : rest ≠ []) :
    ∃ links', t.resolve follow links cur (names ++ rest) = t.resolve follow links' q rest := by
  induction links generalizing cur names with
  | zero =>
    unfold resolve at h
    split at h
    next hw =>
      cases h
      refine ⟨0, ?_⟩
      unfold resolve
      rw [walkNames_append_found hw hdir]
    · cases h
    · cases h
  | succ links ih =>
    unfold resolve at h
    split at h
    next hw =>
      cases h
      refine ⟨links + 1, ?_⟩
      unfold resolve
      rw [walkNames_append_found hw hdir]
    · cases h
    -- A link on the way: its target goes in front of the names that follow.
    next dir s more hw =>
      obtain ⟨links', hlinks'⟩ := ih h
      refine ⟨links', ?_⟩
      rw [← hlinks', resolve, walkNames_append_link hw hrest]
      rw [append_assoc]

/-- The path leads to a directory. -/
def Leads (t : FileTree μ) (p q : TreePath) : Prop := t.target p = .ok q ∧ t.IsDir q

/-- **An entry below a directory that a path leads to** has the names that follow. -/
theorem Leads.place (h : t.Leads p q) (hdir : t.IsDir (q ++ r)) (hn : n ≠ "..") :
    t.place (p ++ (r ++ [n])) = .ok (q ++ r ++ [n]) := by
  obtain ⟨links, hlinks⟩ := resolve_append false h.1 h.2
    (append_ne_nil_of_right_ne_nil r (cons_ne_nil n []))
  rw [FileTree.place, hlinks]
  exact resolve_of_found (walkNames_concat hdir hn nofun)

theorem Leads.target (h : t.Leads p q) (hdir : t.IsDir (q ++ r)) (hn : n ≠ "..")
    (hlink : t.kindAt (q ++ r ++ [n]) ≠ some .link) :
    t.target (p ++ (r ++ [n])) = .ok (q ++ r ++ [n]) := by
  obtain ⟨links, hlinks⟩ := resolve_append true h.1 h.2
    (append_ne_nil_of_right_ne_nil r (cons_ne_nil n []))
  rw [FileTree.target, hlinks]
  exact resolve_of_found (walkNames_concat hdir hn (fun _ => hlink))

/-- Directories below a directory are led to by their names. -/
theorem Leads.below (h : t.Leads p q) (hdir : t.IsDir (q ++ r)) : t.Leads (p ++ r) (q ++ r) := by
  refine ⟨?_, hdir⟩
  induction r using reverseRecOn with
  | nil => grind [h.1]
  | append_singleton r n _ =>
    rw [← append_assoc] at hdir
    have hparent := isDir_of_child hdir.ne_none
    have hlink : t.kindAt (q ++ r ++ [n]) ≠ some .link := by
      rw [show t.kindAt (q ++ r ++ [n]) = some .dir from hdir]
      simp
    rw [h.target hparent (validName_of_child hdir.ne_none).2.2.1 hlink, append_assoc]

theorem leads_root (t : FileTree μ) : t.Leads [] [] := ⟨rfl, t.isDir_root⟩

/-- The path of a directory leads to it. -/
theorem leads_of_isDir (h : t.IsDir p) : t.Leads p p := t.leads_root.below (r := p) h

/-- Following the last name makes no difference where it is no link. -/
theorem walkNames_follow (t : FileTree μ) (cur : TreePath) (names : List String) :
    match t.walkNames false cur names with
    | .found q => t.kindAt q ≠ some .link → t.walkNames true cur names = .found q
    | w => t.walkNames true cur names = w := by
  induction names generalizing cur with
  | nil => exact fun _ => rfl
  | cons n names ih =>
    rw [walkNames, walkNames]
    cases hcur : t.get cur with
    | none => rfl
    | some e =>
      cases e with
      | file m c => rfl
      | link s => rfl
      | dir m =>
        dsimp only
        by_cases hn : n = ".."
        · rw [if_pos hn, if_pos hn]
          exact ih _
        rw [if_neg hn, if_neg hn]
        cases hget : t.get (cur ++ [n]) with
        | none => grind
        | some e =>
          cases e with
          | dir m' => exact ih _
          | file m' c => exact ih _
          | link s =>
            dsimp only
            by_cases hnames : names = []
            · rw [if_pos ⟨hnames, by simp⟩]
              intro hkind
              exact absurd (by rw [kindAt, hget]; rfl) hkind
            · grind

theorem target_of_place (h : t.place p = .ok q) (hq : t.kindAt q ≠ some .link) :
    t.target p = .ok q := by
  have hresolve : ∀ (links : Nat) (cur : TreePath) (names : List String),
      t.resolve false links cur names = .ok q → t.resolve true links cur names = .ok q := by
    intro links
    induction links with
    | zero =>
      intro cur names h
      have hw := walkNames_follow t cur names
      unfold resolve at h ⊢
      split at h
      next hfound => grind
      · cases h
      · cases h
    | succ links ih =>
      intro cur names h
      have hw := walkNames_follow t cur names
      unfold resolve at h ⊢
      split at h
      next hfound => grind
      · cases h
      next hlink => grind
  exact hresolve 40 [] p h

theorem leads_of_place (h : t.place p = .ok q) (hdir : t.IsDir q) : t.Leads p q := by
  refine ⟨target_of_place h ?_, hdir⟩
  rw [show t.kindAt q = some .dir from hdir]
  simp

/-- A walk that can take one more name has come to a directory or to a link. -/
theorem walkNames_dropLast (h : ∀ e, t.walkNames follow cur (names ++ [n]) ≠ .failed e) :
    (∃ d, t.walkNames true cur names = .found d ∧ t.IsDir d) ∨
      ∃ dir s more, t.walkNames true cur names = .link dir s more := by
  induction names generalizing cur with
  | nil =>
    refine .inl ⟨cur, rfl, ?_⟩
    rw [nil_append, walkNames] at h
    by_contra hdir
    split at h
    · exact h _ rfl
    · exact h _ rfl
    · exact h _ rfl
    next m hcur => exact hdir (isDir_iff.mpr ⟨m, hcur⟩)
  | cons m names ih =>
    rw [cons_append, walkNames] at h
    rw [walkNames]
    split at h
    · exact absurd rfl (h _)
    · exact absurd rfl (h _)
    · exact absurd rfl (h _)
    by_cases hm : m = ".."
    · rw [if_pos hm] at h ⊢
      exact ih h
    rw [if_neg hm] at h ⊢
    split at h
    · simp_all
    · grind
    · exact ih h
    · exact ih h

/-- **What a path goes through is a directory.** -/
theorem exists_leads_of_resolve (h : t.resolve follow links cur (names ++ [n]) = .ok q) :
    ∃ d, t.resolve true links cur names = .ok d ∧ t.IsDir d := by
  have hwalk : ∀ {links cur names}, t.resolve follow links cur (names ++ [n]) = .ok q →
      ∀ e, t.walkNames follow cur (names ++ [n]) ≠ .failed e := by
    intro _ _ _ h e he
    rw [resolve, he] at h
    cases h
  induction links generalizing cur names with
  | zero =>
    obtain ⟨d, hd, hdir⟩ | ⟨dir, s, more, hlink⟩ := walkNames_dropLast (hwalk h)
    · exact ⟨d, resolve_of_found hd, hdir⟩
    · rw [resolve, walkNames_append_link hlink (cons_ne_nil n [])] at h
      cases h
  | succ links ih =>
    obtain ⟨d, hd, hdir⟩ | ⟨dir, s, more, hlink⟩ := walkNames_dropLast (hwalk h)
    · exact ⟨d, resolve_of_found hd, hdir⟩
    · rw [resolve, walkNames_append_link hlink (cons_ne_nil n [])] at h
      dsimp only at h
      rw [← append_assoc] at h
      obtain ⟨d, hd, hdir⟩ := ih h
      refine ⟨d, ?_, hdir⟩
      rw [resolve, hlink]
      exact hd

theorem Leads.dropLast (h : t.Leads (p ++ [n]) q) : ∃ d, t.Leads p d :=
  exists_leads_of_resolve h.1

theorem exists_leads_of_place (h : t.place (p ++ [n]) = .ok q) : ∃ d, t.Leads p d :=
  exists_leads_of_resolve h

/-! ### Calls that look -/

/-- `lstat`. -/
def lstat (t : FileTree μ) (p : TreePath) : Except Errno Kind := do
  let q ← t.place p
  match t.kindAt q with
  | some k => .ok k
  | none => .error .noent

/-- `stat`. -/
def stat (t : FileTree μ) (p : TreePath) : Except Errno Kind := do
  let q ← t.target p
  match t.kindAt q with
  | some k => .ok k
  | none => .error .noent

/-- The names in a directory. -/
def dirNames (t : FileTree μ) (p : TreePath) : Except Errno (List String) := do
  let q ← t.target p
  match t.kindAt q with
  | some .dir => .ok (t.children q)
  | some _ => .error .notdir
  | none => .error .noent

/-- The names in a directory with the types of the entries, sorted by name. -/
def readDir (t : FileTree μ) (p : TreePath) : Except Errno (List (String × Kind)) := do
  let q ← t.target p
  match t.kindAt q with
  | some .dir =>
    .ok ((sortBy nameKey (t.children q)).filterMap fun n =>
      (t.kindAt (q ++ [n])).map fun k => (n, k))
  | some _ => .error .notdir
  | none => .error .noent

/-- `readlink`. -/
def readlink (t : FileTree μ) (p : TreePath) : Except Errno String := do
  let q ← t.place p
  match t.get q with
  | some (.link s) => .ok s
  | some _ => .error .inval
  | none => .error .noent

/-- The content of a regular file. -/
def readFile (t : FileTree μ) (p : TreePath) : Except Errno (List UInt8) := do
  let q ← t.target p
  match t.get q with
  | some (.file _ c) => .ok c
  | some _ => .error .isdir
  | none => .error .noent

theorem lstat_of_place (h : t.place p = .ok q) :
    t.lstat p = match t.kindAt q with | some k => .ok k | none => .error .noent := by
  rw [lstat, h]
  rfl

theorem stat_of_target (h : t.target p = .ok q) :
    t.stat p = match t.kindAt q with | some k => .ok k | none => .error .noent := by
  rw [stat, h]
  rfl

theorem readFile_of_target {m : μ} {c : List UInt8} (h : t.target p = .ok q)
    (hget : t.get q = some (.file m c)) : t.readFile p = .ok c := by
  rw [readFile, h]
  simp only [bind, Except.bind, hget]

theorem readlink_of_place {s : String} (h : t.place p = .ok q) (hget : t.get q = some (.link s)) :
    t.readlink p = .ok s := by
  rw [readlink, h]
  simp only [bind, Except.bind, hget]

theorem Leads.stat (h : t.Leads p q) : t.stat p = .ok .dir := by
  rw [stat_of_target h.1, show t.kindAt q = some .dir from h.2]

theorem Leads.dirNames (h : t.Leads p q) : t.dirNames p = .ok (t.children q) := by
  rw [FileTree.dirNames, h.1]
  show (match t.kindAt q with
    | some .dir => _ | some _ => _ | none => _) = Except.ok _
  rw [show t.kindAt q = some .dir from h.2]

/-- What a directory listing holds. -/
theorem Leads.readDir (h : t.Leads p q) :
    ∃ l, t.readDir p = .ok l ∧ (∀ n k, (n, k) ∈ l ↔ t.kindAt (q ++ [n]) = some k) ∧
      (l.map Prod.fst).Nodup := by
  refine ⟨(sortBy nameKey (t.children q)).filterMap fun n =>
    (t.kindAt (q ++ [n])).map fun k => (n, k), ?_, ?_, ?_⟩
  · rw [FileTree.readDir, h.1]
    show (match t.kindAt q with
      | some .dir => _ | some _ => _ | none => _) = Except.ok _
    rw [show t.kindAt q = some .dir from h.2]
  · intro n k
    rw [mem_filterMap]
    constructor
    · simp
    · intro hk
      refine ⟨n, mem_sortBy.mpr (mem_children.mpr fun hnone => ?_), by rw [hk]; rfl⟩
      rw [kindAt, hnone] at hk
      cases hk
  · have hnames : (sortBy nameKey (t.children q)).Nodup :=
      (sortBy_perm nameKey (t.children q)).nodup_iff.mpr (t.nodup_children q)
    rw [map_filterMap]
    refine List.Nodup.filterMap (fun a b c hac hbc => ?_) hnames
    simp only [Option.mem_def, Option.map_map, Option.map_eq_some_iff] at hac hbc
    obtain ⟨_, -, rfl⟩ := hac
    obtain ⟨_, -, rfl⟩ := hbc
    rfl

/-! ### Calls that change the tree -/

/-- A new entry: `mkdir`, `symlink` and `open` with `O_CREAT|O_EXCL`. -/
def addEntry (t : FileTree μ) (p : TreePath) (e : Node μ) : Except Errno (FileTree μ) := do
  let q ← t.place p
  if t.get q ≠ none then .error .exist
  else if h : t.CanAdd q then .ok (t.add q e h)
  else .error .noent

/-- `mkdir(2)`. -/
def mkdir (t : FileTree μ) (p : TreePath) (mode : μ) : Except Errno (FileTree μ) :=
  t.addEntry p (.dir mode)

/-- `open(2)` with `O_CREAT` and `O_EXCL`. -/
def create (t : FileTree μ) (p : TreePath) (mode : μ) : Except Errno (FileTree μ) :=
  t.addEntry p (.file mode [])

/-- `symlink(2)`. -/
def symlink (t : FileTree μ) (s : String) (p : TreePath) : Except Errno (FileTree μ) :=
  t.addEntry p (.link s)

/-- Bytes written at the end of a file. -/
def extend (t : FileTree μ) (p : TreePath) (bytes : List UInt8) : Except Errno (FileTree μ) := do
  let q ← t.target p
  match t.get q with
  | some (.file m c) =>
    if h : t.get q ≠ none ∧ ¬t.IsDir q ∧ (Node.file m (c ++ bytes)).kind ≠ .dir then
      .ok (t.put q (.file m (c ++ bytes)) h)
    else .error .inval
  | some _ => .error .isdir
  | none => .error .noent

/-- `unlink`. -/
def unlink (t : FileTree μ) (p : TreePath) : Except Errno (FileTree μ) := do
  let q ← t.place p
  match t.kindAt q with
  | none => .error .noent
  | some .dir => .error .isdir
  | some _ => if h : q ≠ [] ∧ t.children q = [] then .ok (t.remove q h) else .error .busy

/-- `rmdir`. -/
def rmdir (t : FileTree μ) (p : TreePath) : Except Errno (FileTree μ) := do
  let q ← t.place p
  match t.kindAt q with
  | none => .error .noent
  | some .dir => if h : q ≠ [] ∧ t.children q = [] then .ok (t.remove q h) else .error .notempty
  | some _ => .error .notdir

/-- `os.Rename` of an entry that is no directory: it replaces what is no directory. -/
def rename (t : FileTree μ) (p p' : TreePath) : Except Errno (FileTree μ) := do
  let q ← t.place p
  let q' ← t.place p'
  match t.get q with
  | none => .error .noent
  | some e =>
    if t.IsDir q' then .error .exist
    else if e.kind = .dir then .error .isdir
    else if q = q' then .ok t
    else if h : q ≠ [] ∧ t.children q = [] then
      let t₁ := t.remove q h
      if h₁ : t₁.get q' ≠ none ∧ ¬t₁.IsDir q' ∧ e.kind ≠ .dir then .ok (t₁.put q' e h₁)
      else if h₂ : t₁.CanAdd q' then .ok (t₁.add q' e h₂)
      else .error .noent
    else .error .busy

theorem bind_eq_ok {α β : Type} {x : Except Errno α} {f : α → Except Errno β} {b : β}
    (h : (x >>= f) = .ok b) : ∃ a, x = .ok a ∧ f a = .ok b := by
  cases x with
  | error e => cases h
  | ok a => exact ⟨a, rfl, h⟩

/-- **A new entry.** -/
theorem addEntry_ok {e : Node μ} (h : t.addEntry p e = .ok t') :
    ∃ q, t.place p = .ok q ∧ t.CanAdd q ∧ ∀ x, t'.get x = if x = q then some e else t.get x := by
  obtain ⟨q, hq, h⟩ := bind_eq_ok h
  split at h
  · cases h
  · grind [get_add]

theorem extend_ok {bytes : List UInt8} (h : t.extend p bytes = .ok t') :
    ∃ q m c, t.target p = .ok q ∧ t.get q = some (.file m c) ∧
      ∀ x, t'.get x = if x = q then some (.file m (c ++ bytes)) else t.get x := by
  obtain ⟨q, hq, h⟩ := bind_eq_ok h
  split at h
  next m c hget => grind [get_put]
  · cases h
  · cases h

/-- **An entry that is gone.** -/
theorem unlink_ok (h : t.unlink p = .ok t') :
    ∃ q, t.place p = .ok q ∧ ∀ x, t'.get x = if x = q then none else t.get x := by
  obtain ⟨q, hq, h⟩ := bind_eq_ok h
  split at h
  · cases h
  · cases h
  · split at h
    next hrem =>
      cases h
      exact ⟨q, hq, get_remove hrem⟩
    · cases h

theorem rmdir_ok (h : t.rmdir p = .ok t') :
    ∃ q, t.place p = .ok q ∧ ∀ x, t'.get x = if x = q then none else t.get x := by
  obtain ⟨q, hq, h⟩ := bind_eq_ok h
  split at h
  · cases h
  · split at h
    next hrem =>
      cases h
      exact ⟨q, hq, get_remove hrem⟩
    · cases h
  · cases h

/-- **A rename** moves an entry over what was at its new path. -/
theorem rename_ok {p' : TreePath} (h : t.rename p p' = .ok t') :
    ∃ q q' e, t.place p = .ok q ∧ t.place p' = .ok q' ∧ t.get q = some e ∧ e.kind ≠ .dir ∧
      ¬t.IsDir q' ∧
      ∀ x, t'.get x = if x = q' then some e else if x = q then none else t.get x := by
  obtain ⟨q, hq, h⟩ := bind_eq_ok h
  obtain ⟨q', hq', h⟩ := bind_eq_ok h
  split at h
  · cases h
  next e hget =>
    split at h
    · cases h
    next hdir =>
      split at h
      · cases h
      next hkind =>
        refine ⟨q, q', e, hq, hq', hget, hkind, hdir, fun x => ?_⟩
        split at h
        next heq =>
          -- Both names are the same entry: nothing changes.
          grind
        · split at h
          next hrem =>
            dsimp only at h
            split at h
            next hput =>
              cases h
              rw [get_put, get_remove]
            · grind [get_add, get_remove]
          · cases h

/-- Nothing can be named below a path that is missing. -/
theorem Leads.place_below_missing {m : String} (h : t.Leads p q) (hget : t.get (q ++ [m]) = none)
    (hm : m ≠ "..") : t.place (p ++ [m, n]) = .error .noent := by
  obtain ⟨links, hlinks⟩ := resolve_append false h.1 h.2 (cons_ne_nil m [n])
  obtain ⟨a, ha⟩ := isDir_iff.mp h.2
  have hwalk : t.walkNames false q [m, n] = .failed .noent := by
    rw [walkNames, if_neg hm, ha]
    rw [hget]
    exact if_neg (cons_ne_nil n [])
  rw [FileTree.place, hlinks, resolve, hwalk]

end FileTree

end Booty.Lib
