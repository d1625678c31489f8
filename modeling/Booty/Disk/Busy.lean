import Booty.Disk.InUse
import Booty.Lib.Marking

namespace Booty.Disk

open Booty.Lib List Finset Marks Set

/-!
# What the in-use check finds

The recursion finds exactly what lies below the names that were read, for any stack of devices.

* `Host.Below`, `Host.Reach` — the devices under a device.
* `markBusyFrom_searches` — the recursion marks a name and everything below it.
* `Host.readRoots` — the names that are read from the mount table and the swap list.
* `busyDevices_marks` — the marked names are those below them.
-/

namespace Host

variable (h : Host)

/-- `y` is a slave of `x`, or `x` is a partition of the disk `y`. -/
def Below (x y : String) : Prop :=
  y ≠ "" ∧ ((∃ l, h.slaves x = .found l ∧ y ∈ l) ∨
    (h.partition x = .found () ∧ ∃ path, h.resolved x = .ok path ∧ y = base (dir path)))

/-- Some levels below. -/
def Reach : String → String → Prop := Relation.ReflTransGen h.Below

end Host

/-- The marked names. -/
def marked (busy : Busy) : Set String := {d | (busy.get d).isSome}

theorem marked_set (busy : Busy) (name reason : String) :
    marked (busy.set name reason) = insert name (marked busy) := by
  ext d
  by_cases hd : d = name
  · simp [marked, hd]
  · simp [marked, GoMap.get_set, hd]

/-- A directory that is not there has no entries. -/
theorem entries_meets (what : String) (a : Answer (List String)) :
    (a.entries what).Meets fun l => a = .found l ∨ a = .missing ∧ l = [] := by
  cases a with
  | found l => exact .inl rfl
  | missing => exact .inr ⟨rfl, rfl⟩
  | failed err => trivial

namespace Host

variable {h : Host}

theorem Below.device {x y : String} (hxy : h.Below x y) : x ∈ h.devices := by
  obtain ⟨-, ⟨l, hl, -⟩ | ⟨hpart, -⟩⟩ := hxy
  · exact h.slaves_device x l hl
  · exact h.partition_device x hpart

variable (h) in
/-- The devices that are not marked yet. -/
def unmarked (busy : Busy) : Finset String :=
  h.devices.toFinset.filter fun d => (busy.get d).isNone

theorem mem_unmarked {busy : Busy} {d : String} :
    d ∈ h.unmarked busy ↔ d ∈ h.devices ∧ d ∉ marked busy := by
  simp [unmarked, marked]

theorem card_unmarked_le (busy : Busy) : (h.unmarked busy).card ≤ h.devices.length :=
  (card_filter_le _ _).trans (toFinset_card_le _)

theorem card_unmarked_mono {busy busy' : Busy} (hgrows : marked busy ⊆ marked busy') :
    (h.unmarked busy').card ≤ (h.unmarked busy).card := by
  refine card_le_card fun d hd => ?_
  rw [mem_unmarked] at hd ⊢
  exact ⟨hd.1, fun hmem => hd.2 (hgrows hmem)⟩

/-- A new mark leaves fewer devices to mark. -/
theorem card_unmarked_set {busy : Busy} {name reason : String} (hname : name ∈ h.devices)
    (hnew : name ∉ marked busy) :
    (h.unmarked (busy.set name reason)).card < (h.unmarked busy).card := by
  refine card_lt_card ⟨fun d hd => ?_, fun hsub => ?_⟩
  · rw [mem_unmarked, marked_set] at hd
    rw [mem_unmarked]
    exact ⟨hd.1, fun hmem => hd.2 (.inr hmem)⟩
  · have hmem := hsub (mem_unmarked.mpr ⟨hname, hnew⟩)
    rw [mem_unmarked, marked_set] at hmem
    exact hmem.2 (.inl rfl)

/-- A call that searches from `A` and, when it succeeds, has marked what it found. -/
def Searches (h : Host) (A : Set String) (busy : Busy) (x : Outcome String Busy) : Prop :=
  x.Meets fun busy' => Marks h.Below A (marked busy) (marked busy')

variable {β : Type} {l : List β} {f : Busy → β → Outcome String Busy}

/-- A loop over searches. -/
theorem foldlM_searches {A : β → Set String} {busy : Busy}
    (hf : ∀ b a, a ∈ l → marked busy ⊆ marked b → h.Searches (A a) b (f b a)) :
    h.Searches {d | ∃ a ∈ l, d ∈ A a} busy (l.foldlM f busy) := by
  induction l generalizing busy with
  | nil => exact refl fun d ⟨a, ha, _⟩ => absurd ha not_mem_nil
  | cons a l ih =>
    refine (hf busy a mem_cons_self subset_rfl).bind fun busy1 h1 => ?_
    refine (ih fun b a' ha' hsub =>
      hf b a' (mem_cons_of_mem _ ha') (h1.grows.trans hsub)).mono fun busy2 h2 => ?_
    have := h1.trans h2
    convert this using 1
    ext d
    simp

/-- **The recursion** marks a name and everything below it. -/
theorem markBusyFrom_searches {fuel : Nat} {busy : Busy} {name reason : String}
    (hfuel : (h.unmarked busy).card < fuel) :
    h.Searches {d | d = name ∧ d ≠ ""} busy (h.markBusyFrom fuel busy name reason) := by
  induction fuel generalizing busy name with
  | zero => omega
  | succ fuel ih =>
    rw [markBusyFrom]
    split
    next hdone =>
      refine refl fun d ⟨hd, hne⟩ => ?_
      obtain hsome | hnil := hdone
      · rw [hd]
        exact hsome
      · exact absurd (hd.trans hnil) hne
    next hnew =>
      rw [not_or] at hnew
      obtain ⟨hnew, hname⟩ := hnew
      have hsingle : {d | d = name ∧ d ≠ ""} = ({name} : Set String) := by
        ext d
        exact ⟨fun hd => hd.1, fun hd => ⟨hd, hd ▸ hname⟩⟩
      rw [hsingle]
      refine Outcome.Meets.mono ?_ fun busy' (hmarks : Marks h.Below {y | h.Below name y}
        (insert name (marked busy)) (marked busy')) => hmarks.node
      rw [← marked_set busy name reason]
      -- A recursive call is made only for a device, so a device is marked before it.
      have hless : name ∈ h.devices → ∀ b, marked (busy.set name reason) ⊆ marked b →
          (h.unmarked b).card < fuel := by
        intro hdev b hsub
        have hset : (h.unmarked (busy.set name reason)).card < _ := card_unmarked_set hdev hnew
        have hmono : (h.unmarked b).card ≤ _ := card_unmarked_mono hsub
        omega
      have hbelow : {y | h.Below name y} = {y | ∃ l, h.slaves name = .found l ∧ y ∈ l ∧ y ≠ ""} ∪
          {y | h.partition name = .found () ∧ ∃ path, h.resolved name = .ok path ∧
            y = base (dir path) ∧ y ≠ ""} := by
        ext y
        simp only [Below, mem_ofPred_eq, Set.mem_union]
        grind
      rw [hbelow]
      refine (entries_meets _ (h.slaves name)).bind fun l hl => ?_
      have hloop : h.Searches {y | ∃ s ∈ l, y = s ∧ y ≠ ""} (busy.set name reason)
          (l.foldlM (fun busy s => h.markBusyFrom fuel busy s reason) (busy.set name reason)) := by
        refine foldlM_searches fun b s hs hsub => ?_
        obtain hl | ⟨-, rfl⟩ := hl
        · exact ih (hless (h.slaves_device name l hl) b hsub)
        · exact absurd hs not_mem_nil
      refine hloop.bind fun b hb => ?_
      have hfirst : Marks h.Below {y | ∃ l, h.slaves name = .found l ∧ y ∈ l ∧ y ≠ ""}
          (marked (busy.set name reason)) (marked b) := by
        refine ⟨hb.grows, fun y ⟨l', hl', hy, hne⟩ => hb.found ?_, fun d hd => ?_, hb.closed⟩
        · grind
        · obtain hd | ⟨r, ⟨s, hs, rfl, hne⟩, hreach⟩ := hb.only d hd
          · exact .inl hd
          · grind
      have hdisk : ∀ x : Outcome String Busy, h.Searches {y | h.partition name = .found () ∧
          ∃ path, h.resolved name = .ok path ∧ y = base (dir path) ∧ y ≠ ""} b x →
          x.Meets fun busy' => Marks h.Below _ (marked (busy.set name reason)) (marked busy') :=
        fun x hx => hx.mono fun busy' h' => hfirst.trans h'
      apply hdisk
      cases hpart : h.partition name with
      | missing => exact refl fun y hy => by cases hy.1
      | failed err => trivial
      | found =>
        cases hpath : h.resolved name with
        | error err => trivial
        | ok path =>
          have hrec : h.Searches {d | d = base (dir path) ∧ d ≠ ""} b
              (h.markBusyFrom fuel b (base (dir path)) reason) :=
            ih (hless (h.partition_device name hpart) b hb.grows)
          convert hrec using 1
          ext y
          simp

/-! ### The names that are read -/

section Roots

variable (h)

/-- The names that a device number starts from. -/
def numberRoots (number : String) : List String :=
  match h.devBlock number with
  | .found link => [base link]
  | _ => []

/-- The names that a source starts from. -/
def sourceRoots (source : String) : List String :=
  if isDevPath source then (splitColon source).map h.blockName else []

/-- The devices of a btrfs file system, if the name is one of them. -/
def membersOf (name fsys : String) : List String :=
  match h.btrfsDevices fsys with
  | .found devices => if name ∈ devices then devices else []
  | _ => []

/-- The devices of the btrfs file systems with a device of this name. -/
def members (name : String) : List String :=
  match h.btrfs with
  | .found filesystems => filesystems.flatMap (h.membersOf name)
  | _ => []

/-- The devices that a mount names. -/
def mountRoots (m : MountFields) : List String :=
  h.numberRoots m.number ++ (h.sourceRoots m.source ++
    if m.fstype = "btrfs" then h.members (h.blockName m.source) else [])

/-- The devices that a line of mountinfo names. -/
def lineRoots (line : List Char) : List String :=
  match mountFields line with
  | none => []
  | some m => h.mountRoots m

/-- The device that a line of the swap list names. -/
def swapRoots (line : List Char) : List String :=
  match swapDevice line with
  | none => []
  | some path => [h.blockName path]

/-- The devices that mountinfo names. -/
def mountinfoRoots : List String :=
  match h.mountinfo with
  | .ok data => (scanLines data).1.flatMap h.lineRoots
  | .error _ => []

/-- The devices that the swap list names. -/
def swapsRoots : List String :=
  match h.swaps with
  | .found swaps => ((swaps.splitOn '\n').drop 1).flatMap h.swapRoots
  | _ => []

/-- The names that are read from the mount table and the swap list. -/
def readRoots : List String := h.mountinfoRoots ++ h.swapsRoots

end Roots

/-- Start names as a set. -/
def names (l : List String) : Set String := {d | d ∈ l ∧ d ≠ ""}

theorem names_append (l l' : List String) : names (l ++ l') = names l ∪ names l' := by
  ext d
  simp only [names, mem_ofPred_eq]
  grind

variable (busy : Busy)

/-- `markBusy` searches from one device. -/
theorem markBusy_searches (name reason : String) :
    h.Searches (names [name]) busy (h.markBusy busy name reason) := by
  have hcard : (h.unmarked busy).card ≤ h.devices.length := card_unmarked_le busy
  have hsearch : h.Searches {d | d = name ∧ d ≠ ""} busy (h.markBusy busy name reason) :=
    markBusyFrom_searches (Nat.lt_succ_of_le hcard)
  convert hsearch using 1
  ext d
  simp [names]

/-- A loop in which each turn starts from some names. -/
theorem loop_searches
    {roots : β → List String} (hf : ∀ b a, h.Searches (names (roots a)) b (f b a)) (busy : Busy) :
    h.Searches (names (l.flatMap roots)) busy (l.foldlM f busy) := by
  have hloop : h.Searches {d | ∃ a ∈ l, d ∈ names (roots a)} busy (l.foldlM f busy) :=
    foldlM_searches fun b a _ _ => hf b a
  convert hloop using 1
  ext d
  simp only [names]
  grind

/-- A loop over some devices searches from each of them. -/
theorem markEach_searches (l : List String) (reason : String) :
    h.Searches (names l) busy (h.markEach busy l reason) := by
  have hloop : h.Searches (names (l.flatMap fun name => [name])) busy (h.markEach busy l reason) :=
    loop_searches (fun b name => markBusy_searches b name reason) busy
  rw [flatMap_singleton'] at hloop
  exact hloop

theorem searches_nil : h.Searches (names []) busy (.ok busy) :=
  refl fun _ hd => absurd hd.1 not_mem_nil

/-- The device number of a mount. -/
theorem markNumber_searches (number reason : String) :
    h.Searches (names (h.numberRoots number)) busy (h.markNumber busy number reason) := by
  unfold markNumber numberRoots
  cases h.devBlock number with
  | found link => exact markBusy_searches busy (base link) reason
  | missing => exact searches_nil busy
  | failed err => trivial

/-- The source of a mount. -/
theorem markSource_searches (source reason : String) :
    h.Searches (names (h.sourceRoots source)) busy (h.markSource busy source reason) := by
  unfold markSource sourceRoots
  split
  · exact markEach_searches busy _ reason
  · exact searches_nil busy

/-- The members of a btrfs file system. -/
theorem markFileSystem_searches (name reason fsys : String) :
    h.Searches (names (h.membersOf name fsys)) busy (h.markFileSystem name reason busy fsys) := by
  unfold markFileSystem membersOf
  cases h.btrfsDevices fsys with
  | missing => exact searches_nil busy
  | failed err => trivial
  | found devices => grind [Answer.entries, Outcome.bind_ok, markEach_searches, searches_nil]

/-- The members of all file systems that have a device. -/
theorem markBtrfsMembers_searches (name reason : String) :
    h.Searches (names (h.members name)) busy (h.markBtrfsMembers busy name reason) := by
  unfold markBtrfsMembers members
  cases h.btrfs with
  | missing => exact searches_nil busy
  | failed err => trivial
  | found filesystems => grind [loop_searches, markFileSystem_searches]

/-- A mount. -/
theorem markMount_searches (m : MountFields) :
    h.Searches (names (h.mountRoots m)) busy (h.markMount busy m) := by
  unfold mountRoots markMount
  rw [names_append, names_append, ← union_assoc]
  refine (markNumber_searches busy _ _).bind fun b1 h1 => ?_
  refine (markSource_searches b1 _ _).bind fun b2 h2 => ?_
  have hboth := h1.trans h2
  split
  · exact (markBtrfsMembers_searches b2 _ _).mono fun b3 h3 => hboth.trans h3
  · exact hboth.trans (searches_nil b2)

/-- A line of mountinfo. -/
theorem markLine_searches (line : List Char) :
    h.Searches (names (h.lineRoots line)) busy (h.markLine busy line) := by
  unfold markLine lineRoots
  cases mountFields line with
  | none => exact searches_nil busy
  | some m => exact markMount_searches busy m

/-- A line of the swap list. -/
theorem markSwap_searches (line : List Char) :
    h.Searches (names (h.swapRoots line)) busy (h.markSwap busy line) := by
  unfold markSwap swapRoots
  cases swapDevice line with
  | none => exact searches_nil busy
  | some path => exact markBusy_searches busy _ _

/-- All mounts. -/
theorem markMounts_searches : h.Searches (names h.mountinfoRoots) busy (h.markMounts busy) := by
  unfold markMounts mountinfoRoots
  cases h.mountinfo with
  | error err => trivial
  | ok data =>
    have hloop : h.Searches (names ((scanLines data).1.flatMap h.lineRoots)) busy
        ((scanLines data).1.foldlM h.markLine busy) := loop_searches markLine_searches busy
    refine hloop.bind fun b hb => ?_
    split
    · trivial
    · exact hb

/-- **The graph search.** The marked names are exactly those below the names that were read. -/
theorem busyDevices_marks : h.busyDevices.Meets fun busy => ∀ d, d ∈ marked busy ↔
      ∃ r ∈ h.readRoots, r ≠ "" ∧ h.Reach r d := by
  have hsearch : h.Searches (names h.readRoots) ∅ h.busyDevices := by
    unfold busyDevices
    split
    · trivial
    rw [readRoots, names_append]
    refine (markMounts_searches ∅).bind fun b hb => ?_
    unfold swapsRoots
    cases h.swaps with
    | found swaps =>
      have hloop : h.Searches _ b (h.markSwaps b swaps) := loop_searches markSwap_searches b
      exact hloop.mono fun b' hb' => hb.trans hb'
    | missing => exact hb.trans (searches_nil b)
    | failed err => trivial
  refine hsearch.mono fun busy hmarks d => ?_
  have hempty : marked (∅ : Busy) = ∅ := by
    ext x
    simp [marked]
  rw [hempty] at hmarks
  rw [hmarks.eq_reachable]
  simp only [names, mem_ofPred_eq, and_assoc, Reach]

end Host

end Booty.Disk
