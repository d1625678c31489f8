import Booty.Disk.Busy
import Booty.Lib.Text

namespace Booty.Disk

open Booty.Lib List Host

/-!
# The in-use check and the tables of the kernel

The mount table and the swap list as the kernel keeps them, and the texts that it shows.  A device
is in use if it, or a device on top of it, backs a mount or a swap area.

* `Mount.line`, `Swap.line` — what the kernel writes.
* `Host.InUse` — the devices in use, by the tables.
* `Tables.Unbroken` — the tables whose lines are read back as they are.
* `Host.NamesAgree` — the last elements of the paths in the tables name the devices in use.
* `busyDevices_exact_iff` — when the check is exact.
-/

/-! ### The kernel's texts -/

/-- The bytes that the kernel escapes in a path: a root, a mount point or a swap area. -/
def pathSpecial (c : Char) : Bool := [' ', '\t', '\n', '\\'].contains c

/-- The bytes that it escapes in the type and the source of a mount. -/
def sourceSpecial (c : Char) : Bool := c == '#' || pathSpecial c

/-- A path as the kernel writes it. -/
def escapePath (s : String) : String := String.ofList (octalEscape pathSpecial s.toList)

/-- A type or a source as the kernel writes it. -/
def mangle (s : String) : String := String.ofList (octalEscape sourceSpecial s.toList)

/-- A mount.  The kernel's own words have no blanks, and its paths start at a root. -/
structure Mount where
  id : String
  parent : String
  number : String
  root : String
  mountpoint : String
  options : String
  optional : List String
  fstype : String
  source : String
  superOptions : String
  words : ∀ w ∈ id :: parent :: number :: options :: superOptions :: optional,
    IsWord w ∧ w ≠ "-"
  rooted : isAbs root = true ∧ isAbs mountpoint = true

namespace Mount

/-- The fields of a mount in `/proc/self/mountinfo`. -/
def columns (m : Mount) : List String :=
  [m.id, m.parent, m.number, escapePath m.root, escapePath m.mountpoint, m.options] ++ m.optional ++
    ["-", mangle m.fstype, mangle m.source, m.superOptions]

/-- The line of a mount. -/
def line (m : Mount) : List Char := joinWords m.columns

/-- The names in the line that the kernel did not choose have no white space left. -/
def Unbroken (m : Mount) : Prop :=
  ∀ w ∈ [escapePath m.root, escapePath m.mountpoint, mangle m.fstype, mangle m.source], IsWord w

end Mount

/-- A swap area: its path, and the rest of its line. -/
structure Swap where
  path : String
  rest : List Char
  oneLine : '\n' ∉ rest

/-- The line of a swap area. -/
def Swap.line (s : Swap) : List Char := (escapePath s.path).toList ++ ' ' :: s.rest

/-- The mount table and the swap list. -/
structure Tables where
  mounts : List Mount
  swaps : List Swap

/-- No name in the tables has white space that the kernel does not escape. -/
structure Tables.Unbroken (t : Tables) : Prop where
  mounts : ∀ m ∈ t.mounts, m.Unbroken
  swaps : ∀ s ∈ t.swaps, IsWord (escapePath s.path)

/-- Lines with their newlines. -/
def textOf (lines : List (List Char)) : List Char := lines.flatMap fun l => l ++ ['\n']

/-! ### Devices in use -/

/-- The device node of a kernel name below `/dev`: a `!` in the name stands for a `/`. -/
def nodeName (name : String) : String := "/dev/" ++ replaceChar '!' '/' name

namespace Host

variable (h : Host) (t : Tables)

/-- The files show the tables, if they can be read. -/
structure Shows : Prop where
  mountinfo : ∀ data, h.mountinfo = .ok data → data = textOf (t.mounts.map Mount.line)
  swaps : ∀ data, h.swaps = .found data →
    ∃ header, '\n' ∉ header ∧ data = header ++ '\n' :: textOf (t.swaps.map Swap.line)
  noSwaps : h.swaps = .missing → t.swaps = []

/-- A path leads to the node of a device. -/
def Names (path device : String) : Prop :=
  device ∈ h.devices ∧ h.evalSymlinks path = some (nodeName device)

/-- The path is taken for that of the device, by its last element. -/
def Ends (path device : String) : Prop := h.blockName path = device

/-- The device backs a mount, by its number, by the source or as a device of a btrfs file system, or
    a swap area; `N` says which device a path is taken for. -/
def Backed (N : String → String → Prop) (d : String) : Prop :=
  (∃ m ∈ t.mounts, d ∈ h.numberRoots m.number ∨
    (isDevPath m.source ∧ ∃ path ∈ splitColon m.source, N path d) ∨
    (m.fstype = "btrfs" ∧ ∃ name, N m.source name ∧ d ∈ h.members name)) ∨
  ∃ s ∈ t.swaps, isDevPath s.path ∧ N s.path d

/-- The device, or one on top of it, backs a mount or a swap area. -/
def InUse (d : String) : Prop := ∃ r ∈ h.devices, h.Backed t h.Names r ∧ h.Reach r d

/-- The name, or one on top of it, is a last element of a path in the tables. -/
def Found (d : String) : Prop := ∃ r, h.Backed t h.Ends r ∧ r ≠ "" ∧ h.Reach r d

/-- The last elements of the paths in the tables name the devices in use, up to what lies below
    them. -/
def NamesAgree : Prop :=
  ∀ d ∈ h.devices, (h.Backed t h.Names d → h.Found t d) ∧ (h.Backed t h.Ends d → h.InUse t d)

/-- A path ends in the name of a device exactly if it is the path of this device. -/
def PlainPath (path : String) : Prop := ∀ d ∈ h.devices, h.Ends path d ↔ h.Names path d

/-- The paths in the tables are plain. -/
structure Plain : Prop where
  sources : ∀ m ∈ t.mounts, isDevPath m.source → ∀ path ∈ splitColon m.source, h.PlainPath path
  btrfs : ∀ m ∈ t.mounts, m.fstype = "btrfs" → h.PlainPath m.source
  swaps : ∀ s ∈ t.swaps, isDevPath s.path → h.PlainPath s.path

end Host

/-! ### Reading a line back -/

variable {c : Char}

theorem pathSpecial_lt (h : pathSpecial c = true) : c.toNat < 256 := by
  simp only [pathSpecial, contains_eq_mem, mem_cons, not_mem_nil, or_false, decide_eq_true_eq] at h
  obtain rfl | rfl | rfl | rfl := h <;> decide

theorem sourceSpecial_lt (h : sourceSpecial c = true) : c.toNat < 256 := by
  rw [sourceSpecial, Bool.or_eq_true, beq_iff_eq] at h
  obtain rfl | h := h
  · decide
  · exact pathSpecial_lt h

@[simp] theorem unescapeMount_escapePath (s : String) : unescapeMount (escapePath s) = s := by
  unfold unescapeMount escapePath
  rw [String.toList_ofList, unescape_escape rfl fun c hc => pathSpecial_lt hc, String.ofList_toList]

@[simp] theorem unescapeMount_mangle (s : String) : unescapeMount (mangle s) = s := by
  unfold unescapeMount mangle
  rw [String.toList_ofList, unescape_escape rfl fun c hc => sourceSpecial_lt hc,
    String.ofList_toList]

/-- A written path starts as the path does. -/
theorem isPrefixOf_escapePath (start : List Char) (s : String)
    (hplain : ∀ c ∈ start, pathSpecial c = false ∧ c ≠ '\\') :
    start.isPrefixOf (escapePath s).toList = start.isPrefixOf s.toList := by
  unfold escapePath
  rw [String.toList_ofList]
  exact isPrefixOf_octalEscape hplain _

theorem isDevPath_escapePath (s : String) : isDevPath (escapePath s) = isDevPath s :=
  isPrefixOf_escapePath _ s (by simp [pathSpecial])

theorem mangle_eq_btrfs {s : String} : mangle s = "btrfs" ↔ s = "btrfs" := by
  constructor
  · intro h
    have := congrArg unescapeMount h
    rw [unescapeMount_mangle] at this
    rw [this]
    decide
  · rintro rfl
    decide

/-- A written path starts with its slash. -/
theorem escapePath_ne_dash {s : String} (h : isAbs s = true) : escapePath s ≠ "-" := by
  intro heq
  have hstart := isPrefixOf_escapePath ['/'] s (by simp [pathSpecial])
  unfold isAbs at h
  rw [decide_eq_true_eq, head?_eq_some_iff] at h
  obtain ⟨rest, hrest⟩ := h
  rw [heq, hrest] at hstart
  revert hstart
  simp

variable {m : Mount}

theorem Mount.words_columns (h : m.Unbroken) : ∀ w ∈ m.columns, IsWord w := by
  have hdash : IsWord "-" := ⟨by decide, by unfold Unspaced; decide⟩
  have hwords := m.words
  unfold Mount.Unbroken at h
  intro w hw
  simp only [Mount.columns, mem_append, mem_cons] at hw
  grind

/-- **A line of the mount table is read back.** -/
theorem mountFields_line (h : m.Unbroken) :
    Host.mountFields m.line = some ⟨m.number, m.mountpoint, mangle m.fstype, m.source⟩ := by
  have hfields : fields m.line = m.columns := fields_joinWords (m.words_columns h)
  have hwords := m.words
  simp only [mem_cons, forall_eq_or_imp] at hwords
  obtain ⟨hid, hparent, hnumber, hoptions, -, hoptional⟩ := hwords
  have hidx : m.columns.findIdx? (· = "-") = some (6 + m.optional.length) := by
    have hnone : m.optional.findIdx? (· = "-") = none := by
      rw [findIdx?_eq_none_iff]
      intro w hw
      simpa using (hoptional w hw).2
    simp [Mount.columns, findIdx?_cons, hid.2, hparent.2, hnumber.2,
      hoptions.2, escapePath_ne_dash m.rooted.1, escapePath_ne_dash m.rooted.2, hnone]
    omega
  have hlength : m.columns.length = 10 + m.optional.length := by
    simp [Mount.columns]
    omega
  -- After the separator the columns are those of the last block.
  have hlast : ∀ k, m.columns.getD (6 + m.optional.length + k) "" =
      ["-", mangle m.fstype, mangle m.source, m.superOptions].getD k "" := by
    intro k
    rw [Mount.columns, getD_append_right _ _ _ _ (by simp; omega)]
    congr 1
    simp
    omega
  have htype : m.columns.getD (6 + m.optional.length + 1) "" = mangle m.fstype := hlast 1
  have hsource : m.columns.getD (6 + m.optional.length + 2) "" = mangle m.source := hlast 2
  simp only [Host.mountFields, hfields, hidx, htype, hsource]
  rw [if_neg (by omega)]
  simp [Mount.columns]

/-- A line of the mount table is one line. -/
theorem Mount.not_mem_line (h : m.Unbroken) (hc : 9 ≤ c.toNat)
    (hc' : c.toNat ≤ 13) : c ∉ m.line := by
  intro hmem
  obtain rfl | ⟨w, hw, hcw⟩ := mem_joinWords hmem
  · exact absurd hc' (by decide)
  · exact ((m.words_columns h w hw).2.not_ascii_space hcw).1 ⟨hc, hc'⟩

theorem Mount.dropCR_line (h : m.Unbroken) : Host.dropCR m.line = m.line := by
  refine if_neg fun hlast => ?_
  have hmem := mem_of_getLast? hlast
  exact m.not_mem_line h (by decide) (by decide) hmem

/-! ### Reading the files back -/

theorem splitOn_line {l : List Char} (h : '\n' ∉ l) (rest : List Char) :
    (l ++ '\n' :: rest).splitOn '\n' = l :: rest.splitOn '\n' := by
  have hsplit : ∀ c ∈ l, (c == '\n') = false := by
    intro c hc
    rw [beq_eq_false_iff_ne]
    rintro rfl
    exact h hc
  rw [List.splitOn, splitOnP_append_cons_of_forall_mem hsplit _ (by simp), ← List.splitOn]

theorem splitOn_textOf {lines : List (List Char)} (h : ∀ l ∈ lines, '\n' ∉ l) :
    (textOf lines).splitOn '\n' = lines ++ [[]] := by
  induction lines with
  | nil => rfl
  | cons l lines ih =>
    have hrest := ih fun l' hl' => h l' (mem_cons_of_mem _ hl')
    unfold textOf at hrest ⊢
    rw [flatMap_cons, append_assoc, singleton_append, splitOn_line (h l mem_cons_self), hrest]
    rfl

theorem scanLines_textOf {lines : List (List Char)} (h : ∀ l ∈ lines, '\n' ∉ l)
    (hcr : ∀ l ∈ lines, Host.dropCR l = l) (hshort : (Host.scanLines (textOf lines)).2 = false) :
    (Host.scanLines (textOf lines)).1 = lines := by
  simp only [Host.scanLines, splitOn_textOf h, getLast?_concat, if_true, dropLast_concat]
    at hshort ⊢
  rw [any_eq_false] at hshort
  have htake : lines.takeWhile (fun l => decide (l.length < Host.maxScanTokenSize)) = lines := by
    rw [takeWhile_eq_self_iff]
    intro l hl
    have := hshort l hl
    simpa using this
  rw [htake]
  exact (map_congr_left hcr).trans (map_id _)

theorem Swap.not_mem_line (s : Swap) : '\n' ∉ s.line := by
  have hpath : '\n' ∉ (escapePath s.path).toList := by
    unfold escapePath
    rw [String.toList_ofList]
    exact not_mem_octalEscape rfl (by decide) (.inl (by decide)) _
  simp [Swap.line, hpath, s.oneLine]

theorem swapDevice_line {s : Swap} (h : IsWord (escapePath s.path)) :
    Host.swapDevice s.line = if Host.isDevPath s.path then some s.path else none := by
  unfold Host.swapDevice Swap.line
  rw [fields_word_append h]
  simp only [isDevPath_escapePath, unescapeMount_escapePath]

namespace Host

variable {h : Host} {t : Tables}

variable {d : String}

theorem mem_devices_of_members {name : String} (hd : d ∈ h.members name) : name ∈ h.devices := by
  unfold members at hd
  split at hd
  · obtain ⟨fsys, -, hd⟩ := mem_flatMap.mp hd
    unfold membersOf at hd
    split at hd
    next devices hdevices => grind [h.btrfs_device]
    · exact absurd hd not_mem_nil
  · exact absurd hd not_mem_nil

/-- The names that a mount starts from. -/
theorem mem_mountRoots :
    d ∈ h.mountRoots ⟨m.number, m.mountpoint, mangle m.fstype, m.source⟩ ↔
      d ∈ h.numberRoots m.number ∨
      (isDevPath m.source ∧ ∃ path ∈ splitColon m.source, h.Ends path d) ∨
      (m.fstype = "btrfs" ∧ ∃ name, h.Ends m.source name ∧ d ∈ h.members name) := by
  have hsource : d ∈ h.sourceRoots m.source ↔
      isDevPath m.source ∧ ∃ path ∈ splitColon m.source, h.Ends path d := by
    unfold sourceRoots
    split
    next hdev => simp [hdev, Ends]
    next hdev => simp [hdev]
  have hbtrfs : (d ∈ if mangle m.fstype = "btrfs" then h.members (h.blockName m.source) else []) ↔
      m.fstype = "btrfs" ∧ ∃ name, h.Ends m.source name ∧ d ∈ h.members name := by
    simp only [mangle_eq_btrfs]
    split
    next hfs => simp [hfs, Ends]
    next hfs => simp [hfs]
  unfold mountRoots
  rw [mem_append, mem_append, hsource, hbtrfs]

theorem mem_mountinfoRoots (hshows : h.Shows t) (hunbroken : ∀ m ∈ t.mounts, m.Unbroken)
    {data : List Char} (hdata : h.mountinfo = .ok data) (hshort : (scanLines data).2 = false) :
    d ∈ h.mountinfoRoots ↔ ∃ m ∈ t.mounts, d ∈ h.numberRoots m.number ∨
      (isDevPath m.source ∧ ∃ path ∈ splitColon m.source, h.Ends path d) ∨
      (m.fstype = "btrfs" ∧ ∃ name, h.Ends m.source name ∧ d ∈ h.members name) := by
  have htext := hshows.mountinfo data hdata
  have hlines : (scanLines data).1 = t.mounts.map Mount.line := by
    rw [htext] at hshort ⊢
    refine scanLines_textOf ?_ ?_ hshort
    · intro l hl
      obtain ⟨m, hm, rfl⟩ := mem_map.mp hl
      exact m.not_mem_line (hunbroken m hm) (by decide) (by decide)
    · intro l hl
      obtain ⟨m, hm, rfl⟩ := mem_map.mp hl
      exact m.dropCR_line (hunbroken m hm)
  have hline : ∀ m ∈ t.mounts, h.lineRoots m.line =
      h.mountRoots ⟨m.number, m.mountpoint, mangle m.fstype, m.source⟩ := by
    intro m hm
    simp only [lineRoots, mountFields_line (hunbroken m hm)]
  simp only [mountinfoRoots]
  grind [mem_mountRoots]

theorem mem_swapsRoots (hshows : h.Shows t) (hwords : ∀ s ∈ t.swaps, IsWord (escapePath s.path))
    (hread : ∀ err, h.swaps ≠ .failed err) :
    d ∈ h.swapsRoots ↔ ∃ s ∈ t.swaps, isDevPath s.path ∧ h.Ends s.path d := by
  have hline : ∀ s ∈ t.swaps, d ∈ h.swapRoots s.line ↔ isDevPath s.path ∧ h.Ends s.path d := by
    intro s hs
    unfold swapRoots
    rw [swapDevice_line (hwords s hs)]
    by_cases hdev : isDevPath s.path
    · rw [if_pos hdev]
      simp only [mem_singleton, hdev, true_and]
      exact eq_comm
    · simp [hdev]
  unfold swapsRoots
  cases hswaps : h.swaps with
  | failed err => exact absurd hswaps (hread err)
  | missing => simp [hshows.noSwaps hswaps]
  | found data =>
    -- The first line is a header, the text after the last newline is empty.
    obtain ⟨header, hheader, rfl⟩ := hshows.swaps data hswaps
    have hsplit : (header ++ '\n' :: textOf (t.swaps.map Swap.line)).splitOn '\n' =
        header :: (t.swaps.map Swap.line ++ [[]]) := by
      rw [splitOn_line hheader, splitOn_textOf]
      intro l hl
      obtain ⟨s, -, rfl⟩ := mem_map.mp hl
      exact s.not_mem_line
    have hlast : h.swapRoots [] = [] := rfl
    simp only [hsplit, drop_one, tail_cons, flatMap_append, flatMap_map,
      flatMap_singleton, hlast, append_nil, mem_flatMap]
    exact exists_congr fun s => and_congr_right fun hs => hline s hs

/-! ### The check -/

variable {busy : Busy}

/-- What a successful run has read. -/
theorem read_of_busyDevices (hok : h.busyDevices = .ok busy) :
    (∃ data, h.mountinfo = .ok data ∧ (scanLines data).2 = false) ∧
      ∀ err, h.swaps ≠ .failed err := by
  unfold busyDevices at hok
  split at hok
  · cases hok
  obtain ⟨busy1, hmounts, hok⟩ := Outcome.bind_eq_ok.mp hok
  constructor
  · unfold markMounts at hmounts
    split at hmounts
    · cases hmounts
    next data hdata =>
      obtain ⟨busy2, -, hmounts⟩ := Outcome.bind_eq_ok.mp hmounts
      split at hmounts
      · cases hmounts
      next hshort => grind
  · grind

/-- **What is marked** of unbroken tables: what lies below the last elements of their paths. -/
theorem marked_iff_found (hshows : h.Shows t) (hunbroken : t.Unbroken)
    (hok : h.busyDevices = .ok busy) (d : String) : (busy.get d).isSome ↔ h.Found t d := by
  obtain ⟨⟨data, hdata, hshort⟩, hread⟩ := read_of_busyDevices hok
  have hroots : ∀ r, r ∈ h.readRoots ↔ h.Backed t h.Ends r := by
    intro r
    rw [readRoots, mem_append, mem_mountinfoRoots hshows hunbroken.mounts hdata hshort,
      mem_swapsRoots hshows hunbroken.swaps hread]
    rfl
  refine (busyDevices_marks.of_eq_ok hok d).trans ?_
  simp only [hroots, Found]

/-- A plain path is taken for the device that it leads to. -/
theorem namesAgree_of_plain (hplain : h.Plain t) : h.NamesAgree t := by
  have hbacked : ∀ d ∈ h.devices, h.Backed t h.Ends d ↔ h.Backed t h.Names d := by
    intro d hd
    refine or_congr (exists_congr fun m => and_congr_right fun hm => or_congr_right (or_congr
      (and_congr_right fun hdev => exists_congr fun path => and_congr_right fun hpath =>
        hplain.sources m hm hdev path hpath d hd) (and_congr_right fun hfs => ?_)))
      (exists_congr fun s => and_congr_right fun hs => and_congr_right fun hdev =>
        hplain.swaps s hs hdev d hd)
    refine exists_congr fun name => and_congr_left fun hmem => ?_
    exact hplain.btrfs m hm hfs name (mem_devices_of_members hmem)
  intro d hd
  refine ⟨fun hbacks => ⟨d, (hbacked d hd).mpr hbacks, ?_, .refl⟩, fun hends => ?_⟩
  · rintro rfl
    exact h.nameless hd
  · exact ⟨d, hd, (hbacked d hd).mp hends, .refl⟩

/-- A device below a name that is a device itself, or the name. -/
theorem Reach.device {r : String} (hreach : h.Reach r d) (hd : d ∈ h.devices) : r ∈ h.devices := by
  obtain rfl | ⟨y, hy, -⟩ := Relation.ReflTransGen.cases_head hreach
  · exact hd
  · exact hy.device

/-- The devices found are those in use exactly if the names agree. -/
theorem found_iff_inUse : (∀ d ∈ h.devices, h.Found t d ↔ h.InUse t d) ↔ h.NamesAgree t := by
  constructor
  · intro hexact d hd
    refine ⟨fun hbacks => (hexact d hd).mpr ⟨d, hd, hbacks, .refl⟩, fun hends => ?_⟩
    have hne : d ≠ "" := fun heq => h.nameless (heq ▸ hd)
    exact (hexact d hd).mp ⟨d, hends, hne, .refl⟩
  · intro hagree d hd
    constructor
    · rintro ⟨r, hr, -, hreach⟩
      obtain ⟨r', hr', hbacks, hreach'⟩ := (hagree r (Reach.device hreach hd)).2 hr
      exact ⟨r', hr', hbacks, hreach'.trans hreach⟩
    · rintro ⟨r, hr, hbacks, hreach⟩
      obtain ⟨r', hr', hne, hreach'⟩ := (hagree r hr).1 hbacks
      exact ⟨r', hr', hne, hreach'.trans hreach⟩

/-- **The check** of a path lets through what is not found under its last element. -/
theorem checkNotInUse_ok (hshows : h.Shows t) (hunbroken : t.Unbroken)
    (hok : h.busyDevices = .ok busy) (device : String) :
    h.checkNotInUse false device = .ok () ↔ ¬h.Found t (h.blockName device) := by
  rw [← marked_iff_found hshows hunbroken hok]
  simp only [checkNotInUse, hok]
  cases busy.get (h.blockName device) <;> simp

end Host

/-- **When the in-use check is exact.** The search ends on every host.  If it succeeds on tables
    with unbroken lines, it has marked exactly the devices in use if and only if the names agree, as
    they do for plain paths; and `CheckNotInUse` of a path lets no device in use through if and only
    if this device is found under the last element of the path, as it is when the names agree and
    the element is the name of the device. -/
theorem busyDevices_exact_iff (h : Host) (t : Tables) (hshows : h.Shows t) :
    h.busyDevices.NoFault ∧ (h.Plain t → h.NamesAgree t) ∧
      ∀ busy, h.busyDevices = .ok busy → t.Unbroken →
        ((∀ d ∈ h.devices, (busy.get d).isSome ↔ h.InUse t d) ↔ h.NamesAgree t) ∧
        ∀ device d, h.Names device d →
          ((h.checkNotInUse false device = .ok () → ¬h.InUse t d) ↔
            (h.InUse t d → h.Found t (h.blockName device))) ∧
          (h.NamesAgree t → h.blockName device = d →
            h.checkNotInUse false device = .ok () → ¬h.InUse t d) := by
  refine ⟨busyDevices_marks.noFault, namesAgree_of_plain, fun busy hok hunbroken => ⟨?_, ?_⟩⟩
  · simp only [marked_iff_found hshows hunbroken hok]
    exact found_iff_inUse
  · intro device d hnames
    rw [checkNotInUse_ok hshows hunbroken hok]
    refine ⟨by tauto, fun hagree hname hfree hused => hfree ?_⟩
    rw [hname]
    exact (found_iff_inUse.mpr hagree d hnames.1).mpr hused

/-! ### Runs of the check -/

/-- A mount of a file system with a device number or an anonymous one. -/
def sampleMount (number mountpoint fstype source : String)
    (hnumber : IsWord number ∧ number ≠ "-") (habs : isAbs mountpoint = true) : Mount where
  id := "36"
  parent := "35"
  number := number
  root := "/"
  mountpoint := mountpoint
  options := "rw"
  optional := []
  fstype := fstype
  source := source
  superOptions := "rw"
  words := by
    intro w hw
    simp only [List.mem_cons, List.not_mem_nil, or_false] at hw
    obtain rfl | rfl | rfl | rfl | rfl := hw
    · decide
    · decide
    · exact hnumber
    · decide
    · decide
  rooted := ⟨by decide, habs⟩

/-- The answers of a host without swap areas; `disks` lists each partition with its disk,
    `slaves` each device with those below it, `btrfs` the devices of one file system. -/
def sampleHost (mounts : List Mount) (devices : List String) (numbers : List (String × String))
    (disks : List (String × String)) (slaves : List (String × List String))
    (btrfs : List String) (hnames : "" ∉ devices) (hbtrfs : ∀ n ∈ btrfs, n ∈ devices)
    (hdisks : ∀ p ∈ disks, p.1 ∈ devices) (hslaves : ∀ p ∈ slaves, p.1 ∈ devices) : Host where
  devices := devices
  statDir _ := none
  mountinfo := .ok (textOf (mounts.map Mount.line))
  swaps := .missing
  devBlock n := ((numbers.lookup n).map fun d => .found ("../../block/" ++ d)).getD .missing
  slaves n := ((slaves.find? fun p => p.1 = n).map fun p => .found p.2).getD .missing
  partition n := if n ∈ disks.map Prod.fst then .found () else .missing
  resolved n := .ok ("/sys/block/" ++ (disks.lookup n).getD "" ++ "/" ++ n)
  evalSymlinks path := if path ∈ devices.map nodeName then some path else none
  btrfs := .found ["fs"]
  btrfsDevices _ := .found btrfs
  nameless := hnames
  slaves_device n l hl := by
    cases hfind : slaves.find? fun p => p.1 = n with
    | none => simp [hfind] at hl
    | some p => grind
  partition_device n hn := by grind
  btrfs_device _ l n hl hn := by
    cases hl
    exact hbtrfs n hn

theorem sampleHost_shows {mounts : List Mount} {devices : List String}
    {numbers disks : List (String × String)} {slaves : List (String × List String)}
    {btrfs : List String} {hnames : "" ∉ devices} {hbtrfs : ∀ n ∈ btrfs, n ∈ devices}
    {hdisks : ∀ p ∈ disks, p.1 ∈ devices} {hslaves : ∀ p ∈ slaves, p.1 ∈ devices} :
    (sampleHost mounts devices numbers disks slaves btrfs hnames hbtrfs hdisks hslaves).Shows
      ⟨mounts, []⟩ where
  mountinfo data hdata := by
    cases hdata
    rfl
  swaps data hdata := by
    cases hdata
  noSwaps _ := rfl

/-- An encrypted root on a partition. -/
def stackedTables : Tables :=
  ⟨[sampleMount "253:0" "/" "ext4" "/dev/dm-0" (by decide) isAbs_slash], []⟩

/-- The host with these mounts. -/
def stackedHost : Host :=
  sampleHost stackedTables.mounts ["sda", "sda1", "dm-0", "sdb"] [("253:0", "dm-0")]
    [("sda1", "sda")] [("dm-0", ["sda1"])] [] (by decide) (by decide) (by decide) (by decide)

theorem stackedHost_plain : stackedHost.Plain stackedTables where
  sources m hm _ := by
    rw [mem_singleton.mp hm]
    unfold PlainPath Ends Names
    decide
  btrfs m hm hfs := by
    rw [mem_singleton.mp hm] at hfs
    exact absurd hfs (by decide)
  swaps s hs := absurd hs not_mem_nil

theorem stackedTables_unbroken : stackedTables.Unbroken := by
  refine ⟨fun m hm => ?_, fun s hs => absurd hs not_mem_nil⟩
  rw [mem_singleton.mp hm]
  unfold Mount.Unbroken
  decide

/-- The check of the stacked host is exact. -/
theorem busyDevices_exact_stackedHost : ∃ busy, stackedHost.busyDevices = .ok busy ∧
    ∀ d ∈ stackedHost.devices, (busy.get d).isSome ↔ stackedHost.InUse stackedTables d := by
  obtain ⟨-, hplain, hexact⟩ := busyDevices_exact_iff stackedHost stackedTables sampleHost_shows
  exact ⟨_, rfl, (hexact _ rfl stackedTables_unbroken).1.mpr (hplain stackedHost_plain)⟩

/-- A btrfs file system whose mount point has a no-break space, a dash and a no-break space. -/
def brokenTables : Tables :=
  ⟨[sampleMount "0:45" "/mnt/a\u00c2\u00a0-\u00c2\u00a0b" "btrfs" "/dev/sdb" (by decide)
    (by decide)], []⟩

/-- The host of this table. -/
def brokenHost : Host :=
  sampleHost brokenTables.mounts ["sda", "sdb"] [] [] [] ["sdb"] (by decide) (by decide) (by decide)
    (by decide)

/-- A partition of a disk whose device node is in a directory below `/dev`. -/
def etherdTables : Tables :=
  ⟨[sampleMount "152:17" "/srv" "ext4" "/dev/etherd/e1.0p1" (by decide) (by decide)], []⟩

/-- The host with a device whose name has a `!`. -/
def etherdHost : Host :=
  sampleHost etherdTables.mounts ["etherd!e1.0", "etherd!e1.0p1"] [("152:17", "etherd!e1.0p1")]
    [("etherd!e1.0p1", "etherd!e1.0")] [] [] (by decide) (by decide) (by decide) (by decide)

theorem etherdHost_inUse : etherdHost.Names "/dev/etherd/e1.0" "etherd!e1.0" ∧
    etherdHost.InUse etherdTables "etherd!e1.0" := by
  refine ⟨⟨by decide, by decide⟩, "etherd!e1.0p1", by decide, ?_, ?_⟩
  · exact .inl ⟨_, mem_singleton_self _, .inl (by decide)⟩
  · exact .single ⟨by decide, .inr ⟨rfl, _, rfl, by decide⟩⟩

/-- Both disks are in use, and the check lets them through. -/
theorem checkNotInUse_lets_busy_through :
    (brokenHost.Shows brokenTables ∧ brokenHost.Names "/dev/sdb" "sdb" ∧
      brokenHost.InUse brokenTables "sdb" ∧
      brokenHost.checkNotInUse false "/dev/sdb" = .ok ()) ∧
    etherdHost.Shows etherdTables ∧ etherdHost.Names "/dev/etherd/e1.0" "etherd!e1.0" ∧
      etherdHost.InUse etherdTables "etherd!e1.0" ∧
      etherdHost.checkNotInUse false "/dev/etherd/e1.0" = .ok () := by
  have hsdb : brokenHost.Names "/dev/sdb" "sdb" := ⟨by decide, by decide⟩
  refine ⟨⟨sampleHost_shows, hsdb, ?_, by decide⟩, sampleHost_shows, etherdHost_inUse.1,
    etherdHost_inUse.2, by decide⟩
  exact ⟨"sdb", by decide, .inl ⟨_, mem_singleton_self _, .inr (.inr ⟨rfl, "sdb", hsdb,
    by decide⟩)⟩, .refl⟩

end Booty.Disk
