import Booty.Disk.Tables

namespace Booty.Provision

open Booty.Lib Booty.Disk List

/-!
# The mirror arrays in mdadm.conf

`configureMdadmAt` records the mirror arrays from the lines of `mdadm --detail --scan`, which lists
every array of the host.  A line belongs to a mirror array by its device or by the end of its name.

* `mdadmArrayLines_scan` — the lines that are kept are those of the arrays that look like the mirror
  array.
* `MdHost.ownFiles` — the files with the lines and the UUIDs of the mirror arrays.
* `recorded_own_iff` — these are written exactly if each mirror array looks like itself, no other
  array does, and no name has a second UUID in it.
* `foreign_array_recorded` — an array of another host with the same number is recorded as well.
-/

/-- `mdadmLineIsArray`, for a line with the fields `ARRAY`, `device` and `attrs`. -/
def mdadmLineIsArray (device : String) (attrs : List String) (array num : String) : Bool :=
  device = array || device = "/dev/md/" ++ num ||
    attrs.any fun f => (afterPrefix "name=" f).any fun name =>
      name = num || (":" ++ num).toList.isSuffixOf name.toList

/-- The number of an array: `strings.TrimPrefix` of `/dev/md`. -/
def arrayNumber (array : String) : String := (afterPrefix "/dev/md" array).getD array

/-- The line that `mdadmArrayLines` makes of the fields of a line. -/
def mdadmArrayLine (array : String) : List String → Option String
  | first :: device :: attrs =>
    if first = "ARRAY" ∧ mdadmLineIsArray device attrs array (arrayNumber array) then
      some (" ".intercalate (first :: array :: attrs))
    else none
  | _ => none

/-- `mdadmArrayLines`. -/
def mdadmArrayLines (array scan : String) : List String :=
  -- the line ends that `strings.Lines` leaves are blanks for `strings.Fields`
  (scan.toList.splitOn '\n').filterMap fun line => mdadmArrayLine array (textFields (.ofList line))

/-- The configuration of dracut, up to the UUIDs of the arrays. -/
def dracutHeader : String :=
  "# Written by BOOTy: assemble the mirror arrays in the initramfs.\n" ++
    "add_dracutmodules+=\" mdraid \"\nmdadmconf=\"yes\"\nkernel_cmdline+=\""

/-- The argument of the kernel that assembles an array. -/
def uuidArgument (uuid : String) : String := " rd.md.uuid=" ++ uuid

/-- `dracutMirrorConf`. -/
def dracutMirrorConf (arrayLines : List String) : String :=
  dracutHeader ++ String.join (arrayLines.flatMap fun line =>
    ((textFields line).filterMap (afterPrefix "UUID=")).map uuidArgument) ++ " \"\n"

/-- What mdadm.conf says before the lines of the arrays. -/
def mdadmConfHeader : String :=
  "# mdadm.conf - written by BOOTy\n\nDEVICE partitions\nHOMEHOST <system>\nMAILADDR root\n\n" ++
    "AUTO +imsm +1.x -all\n\n"

/-- The content of mdadm.conf. -/
def mdadmConf (arrayLines : List String) : String :=
  mdadmConfHeader ++ "\n".intercalate arrayLines ++ "\n"

/-- What `configureMdadmAt` writes to mdadm.conf and to the configuration of dracut; `scan` is the
    result of `MirrorScan`. -/
def configureMdadmAt (scan : Except String String) (mirrorArrays : List String) :
    Except String (String × String) := do
  let lines ← mirrorArrays.mapM fun array => scan.map (mdadmArrayLines array)
  let arrayLines := lines.flatten
  return (mdadmConf arrayLines, dracutMirrorConf arrayLines)

/-- The lines of all mirror arrays are written to both files. -/
theorem configureMdadmAt_ok (scan : String) (mirrorArrays : List String) :
    configureMdadmAt (.ok scan) mirrorArrays =
      let arrayLines := mirrorArrays.flatMap (mdadmArrayLines · scan)
      .ok (mdadmConf arrayLines, dracutMirrorConf arrayLines) := by
  have hlines : mirrorArrays.mapM (fun array => (Except.ok scan : Except String String).map
      (mdadmArrayLines array)) = .ok (mirrorArrays.map (mdadmArrayLines · scan)) := mapM_pure
  simp only [configureMdadmAt, hlines, flatMap_def]
  rfl

/-! ### The arrays of a host -/

/-- The line of an array in the output of `mdadm --detail --scan`. -/
def scanLine (device metadata name uuid : String) : String :=
  "ARRAY" ++ " " ++ device ++ " " ++ ("metadata=" ++ metadata) ++ " " ++ ("name=" ++ name) ++ " " ++
    ("UUID=" ++ uuid)

/-- An array: its number in the kernel, and the device, metadata, name and UUID in the scan.  The
    name is any text on one line. -/
structure MdArray where
  number : String
  device : String
  metadata : String
  name : String
  uuid : String
  number_word : Word ("/dev/md" ++ number)
  device_word : Word device
  metadata_word : Word ("metadata=" ++ metadata)
  uuid_word : Word ("UUID=" ++ uuid)
  oneLine : '\n' ∉ (scanLine device metadata name uuid).toList

namespace MdArray

/-- The device of the array in the kernel. -/
def node (a : MdArray) : String := "/dev/md" ++ a.number

/-- The fields of the line after the device. -/
def attrs (a : MdArray) : List String :=
  ("metadata=" ++ a.metadata) :: textFields ("name=" ++ a.name) ++ ["UUID=" ++ a.uuid]

/-- The line of the array, recorded under the device of a mirror array. -/
def lineAs (a : MdArray) (array : String) : String := " ".intercalate ("ARRAY" :: array :: a.attrs)

/-- The array looks like a mirror array: it is reported under its device, or a word of the name is
    the number of the mirror array, alone or after a home host. -/
def LooksLike (a : MdArray) (array : String) : Prop :=
  a.device = array ∨ a.device = "/dev/md/" ++ arrayNumber array ∨
    ∃ w ∈ textFields ("name=" ++ a.name), ∃ n, afterPrefix "name=" w = some n ∧
      (n = arrayNumber array ∨ (":" ++ arrayNumber array).toList <:+ n.toList)

/-- The UUIDs that the name of the array seems to have in it. -/
def namedUUIDs (a : MdArray) : List String :=
  (textFields ("name=" ++ a.name)).filterMap (afterPrefix "UUID=")

end MdArray

/-- The arrays of a host, some of which are its mirror arrays. -/
structure MdHost where
  arrays : List MdArray
  nodes : (arrays.map MdArray.node).Nodup
  uuids : (arrays.map MdArray.uuid).Nodup
  mirror : List MdArray
  present : ∀ own ∈ mirror, own ∈ arrays

namespace MdHost

/-- The output of `mdadm --detail --scan`. -/
def scan (host : MdHost) : String :=
  .ofList (textOf (host.arrays.map fun a => (scanLine a.device a.metadata a.name a.uuid).toList))

/-- The devices of the mirror arrays. -/
def mirrorArrays (host : MdHost) : List String := host.mirror.map MdArray.node

/-- The lines of the mirror arrays. -/
def ownLines (host : MdHost) : List String := host.mirror.map fun own => own.lineAs own.node

/-- The files with the line and the UUID of every mirror array and nothing else. -/
def ownFiles (host : MdHost) : String × String :=
  (mdadmConf host.ownLines,
    dracutHeader ++ String.join (host.mirror.map fun own => uuidArgument own.uuid) ++ " \"\n")

/-- A mirror array looks like itself, and no other array of the host looks like it. -/
def ToldApart (host : MdHost) : Prop :=
  ∀ own ∈ host.mirror, ∀ a ∈ host.arrays, a.LooksLike own.node ↔ a.node = own.node

end MdHost

/-! ### The fields of a line -/

section Lines

variable {a b own : MdArray} {array : String}

theorem MdArray.node_word (a : MdArray) : Word a.node := a.number_word

theorem MdArray.textFields_scanLine (a : MdArray) :
    textFields (scanLine a.device a.metadata a.name a.uuid) = "ARRAY" :: a.device :: a.attrs := by
  unfold scanLine MdArray.attrs
  rw [textFields_blank, textFields_blank, textFields_blank, textFields_blank, a.device_word,
    a.metadata_word, a.uuid_word, show textFields "ARRAY" = ["ARRAY"] by decide]
  simp

/-- A recorded line is made of words. -/
theorem MdArray.words_lineAs (a : MdArray) (harray : Word array) :
    ∀ w ∈ "ARRAY" :: array :: a.attrs, Word w := by
  intro w hw
  simp only [attrs, cons_append, mem_cons, mem_append, not_mem_nil, or_false] at hw
  rcases hw with rfl | rfl | rfl | hw | rfl
  · decide
  · exact harray
  · exact a.metadata_word
  · exact word_of_mem_textFields hw
  · exact a.uuid_word

theorem MdArray.textFields_lineAs (a : MdArray) (harray : Word array) :
    textFields (a.lineAs array) = "ARRAY" :: array :: a.attrs :=
  textFields_intercalate (a.words_lineAs harray)

theorem MdArray.lineAs_ne_nil (a : MdArray) (harray : Word array) :
    (a.lineAs array).toList ≠ [] := by
  intro hnil
  have hfields := a.textFields_lineAs harray
  rw [String.toList_eq_nil_iff.mp hnil] at hfields
  cases hfields

/-- A recorded line is one line. -/
theorem MdArray.newline_not_mem_lineAs (a : MdArray) (harray : Word array) :
    '\n' ∉ (a.lineAs array).toList := by
  intro hmem
  rcases isSpace_of_mem_intercalate (a.words_lineAs harray) hmem with h | h
  · cases h
  · cases h

theorem mdadmLineIsArray_iff :
    mdadmLineIsArray a.device a.attrs array (arrayNumber array) = true ↔ a.LooksLike array := by
  have hmeta : afterPrefix "name=" ("metadata=" ++ a.metadata) = none := by simp [afterPrefix]
  have huuid : afterPrefix "name=" ("UUID=" ++ a.uuid) = none := by simp [afterPrefix]
  simp [mdadmLineIsArray, MdArray.LooksLike, MdArray.attrs, hmeta, huuid, or_assoc,
    Option.any_eq_true]

/-- **The lines that are kept** are those of the arrays that look like the mirror array. -/
theorem mdadmArrayLines_scan (host : MdHost) (array : String) :
    mdadmArrayLines array host.scan = (host.arrays.filter fun a =>
      mdadmLineIsArray a.device a.attrs array (arrayNumber array)).map (·.lineAs array) := by
  have hlines : ∀ l ∈ host.arrays.map fun a => (scanLine a.device a.metadata a.name a.uuid).toList,
      '\n' ∉ l := forall_mem_map.mpr fun a _ => a.oneLine
  unfold mdadmArrayLines MdHost.scan
  rw [String.toList_ofList, splitOn_textOf hlines, filterMap_append, filterMap_map,
    ← filterMap_eq_map', filterMap_filter]
  have hend : textFields "" = [] := rfl
  simp [MdArray.textFields_scanLine, mdadmArrayLine, MdArray.lineAs, hend]

/-- The UUID tells the lines apart. -/
theorem uuid_eq_of_lineAs (harray : Word array) (h : a.lineAs array = b.lineAs array) :
    a.uuid = b.uuid := by
  have hlast : ∀ c : MdArray, (textFields (c.lineAs array)).getLast? = some ("UUID=" ++ c.uuid) :=
    fun c => by
      rw [c.textFields_lineAs harray]
      exact getLast?_concat (l := "ARRAY" :: array :: _ :: _)
  have huuid := (hlast a).symm.trans (h ▸ hlast b)
  simpa using huuid

/-- **Each mirror array is recorded with its own line and no other** exactly if it is told apart. -/
theorem kept_own_iff (host : MdHost) :
    (∀ own ∈ host.mirror, mdadmArrayLines own.node host.scan = [own.lineAs own.node]) ↔
      host.ToldApart := by
  refine forall₂_congr fun own hmirror => ?_
  have hown := host.present own hmirror
  have hnode : ∀ a ∈ host.arrays, a.node = own.node ↔ a = own :=
    fun a ha => ⟨fun h => inj_on_of_nodup_map host.nodes ha hown h, congrArg _⟩
  rw [mdadmArrayLines_scan]
  -- one array alone is kept exactly if it alone looks like the mirror array
  have hone : ∀ c, (host.arrays.filter fun a => mdadmLineIsArray a.device a.attrs own.node
      (arrayNumber own.node)) = [c] ↔ ∀ a, a ∈ host.arrays ∧ a.LooksLike own.node ↔ a = c := by
    intro c
    rw [← perm_singleton, perm_ext_iff_of_nodup (host.nodes.of_map.filter _) (nodup_singleton c)]
    simp only [mem_filter, mdadmLineIsArray_iff, mem_singleton]
  constructor
  · intro hlines b hb
    obtain ⟨c, hfilter, hline⟩ := map_eq_singleton_iff.mp hlines
    have hc := ((hone c).mp hfilter c).mpr rfl
    obtain rfl := inj_on_of_nodup_map host.uuids hc.1 hown (uuid_eq_of_lineAs own.node_word hline)
    rw [hnode b hb, ← (hone c).mp hfilter b]
    exact (and_iff_right hb).symm
  · intro h
    refine map_eq_singleton_iff.mpr ⟨own, (hone own).mpr fun a => ?_, rfl⟩
    constructor
    · exact fun ha => (hnode a ha.1).mp ((h a ha.1).mp ha.2)
    · rintro rfl
      exact ⟨hown, (h a hown).mpr rfl⟩

end Lines

/-! ### The files -/

section Files

variable {host : MdHost}

/-- The lines under the device of a mirror array. -/
theorem kept_device {own : MdArray} {line : String}
    (h : line ∈ mdadmArrayLines own.node host.scan) :
    (textFields line)[1]? = some own.node ∧ line.toList ≠ [] ∧ '\n' ∉ line.toList := by
  rw [mdadmArrayLines_scan] at h
  obtain ⟨a, -, rfl⟩ := mem_map.mp h
  refine ⟨?_, a.lineAs_ne_nil own.node_word, a.newline_not_mem_lineAs own.node_word⟩
  rw [a.textFields_lineAs own.node_word]
  rfl

/-- Lists that are as long as their number altogether, each with a key of its own, have one element
    each. -/
theorem eq_singleton_of_flatMap_eq_map {α β κ : Type} [DecidableEq κ] {l : List α} {f : α → List β}
    {g : α → β} {key : β → κ} {k : α → κ} (hf : ∀ a ∈ l, ∀ b ∈ f a, key b = k a)
    (hg : ∀ a ∈ l, key (g a) = k a) (hinj : ∀ a ∈ l, ∀ a' ∈ l, k a = k a' → a = a')
    (h : l.flatMap f = l.map g) : ∀ a ∈ l, f a = [g a] := by
  intro a ha
  -- Count the elements with the key of `a` on both sides.
  have hcount : ∀ l' ⊆ l, (l'.flatMap f).countP (key · = k a) =
      l'.countP (k · = k a) * (f a).length := by
    intro l' hl'
    induction l' with
    | nil => simp
    | cons x l' ih =>
      have hx : x ∈ l := hl' mem_cons_self
      rw [flatMap_cons, countP_append, countP_cons, ih fun y hy => hl' (mem_cons_of_mem _ hy)]
      by_cases hk : k x = k a
      · obtain rfl := hinj x hx a ha hk
        have hall : (f x).countP (key · = k x) = (f x).length := by
          rw [countP_eq_length]
          exact fun b hb => decide_eq_true (hf x hx b hb)
        rw [hall]
        simp
        ring
      · have hnone : (f x).countP (key · = k a) = 0 := by
          rw [countP_eq_zero]
          exact fun b hb heq => hk ((hf x hx b hb).symm.trans (of_decide_eq_true heq))
        simp [hnone, hk]
  have hsame : (l.map g).countP (key · = k a) = l.countP (k · = k a) := by
    rw [countP_map]
    exact countP_congr fun x hx => by simp [hg x hx]
  have hpos : 0 < l.countP (k · = k a) := countP_pos_iff.mpr ⟨a, ha, decide_eq_true rfl⟩
  have hlength : (f a).length = 1 := by
    have hmul := hcount l (Subset.refl l)
    rw [h, hsame] at hmul
    exact Nat.eq_of_mul_eq_mul_left hpos (by omega)
  obtain ⟨b, hb⟩ := length_eq_one_iff.mp hlength
  have hmem : b ∈ l.map g := h ▸ mem_flatMap.mpr ⟨a, ha, hb ▸ mem_singleton_self b⟩
  obtain ⟨a', ha', rfl⟩ := mem_map.mp hmem
  have hkey : k a' = k a := (hg a' ha').symm.trans (hf a ha _ (hb ▸ mem_singleton_self _))
  rw [hb, hinj a' ha' a ha hkey]

/-- A content of mdadm.conf tells the lines. -/
theorem mdadmConf_inj {ls ls' : List String}
    (h : ∀ l ∈ ls, l.toList ≠ [] ∧ '\n' ∉ l.toList)
    (h' : ∀ l ∈ ls', l.toList ≠ [] ∧ '\n' ∉ l.toList) (heq : mdadmConf ls = mdadmConf ls') :
    ls = ls' := by
  have hlists : ['\n'].intercalate (ls.map String.toList) =
      ['\n'].intercalate (ls'.map String.toList) := by
    have hchars := congrArg String.toList heq
    simpa [mdadmConf, String.toList_intercalate] using hchars
  exact map_injective_iff.mpr (fun _ _ => String.toList_injective)
    (lines_inj (forall_mem_map.mpr h) (forall_mem_map.mpr h') hlists)

/-- Mirror arrays that are told apart have their own lines. -/
theorem lines_of_toldApart (h : host.ToldApart) :
    host.mirrorArrays.flatMap (mdadmArrayLines · host.scan) = host.ownLines := by
  rw [MdHost.mirrorArrays, flatMap_map, MdHost.ownLines, ← flatMap_pure_eq_map]
  exact flatMap_congr ((kept_own_iff host).mpr h)

/-- **The lines of mdadm.conf** are those of the mirror arrays exactly if these are told apart. -/
theorem lines_own_iff :
    mdadmConf (host.mirrorArrays.flatMap (mdadmArrayLines · host.scan)) = mdadmConf host.ownLines ↔
      host.ToldApart := by
  constructor
  · intro hconf
    rw [MdHost.mirrorArrays, flatMap_map] at hconf
    have hown : ∀ own ∈ host.mirror, (textFields (own.lineAs own.node))[1]? = some own.node :=
      fun own _ => by rw [own.textFields_lineAs own.node_word]; rfl
    have hlines := mdadmConf_inj (fun l hl => ?_) (fun l hl => ?_) hconf
    · refine (kept_own_iff host).mp ?_
      refine eq_singleton_of_flatMap_eq_map (k := fun own => some own.node)
        (fun own _ line hline => (kept_device hline).1) hown ?_ hlines
      intro a ha b hb hnode
      exact inj_on_of_nodup_map host.nodes (host.present a ha) (host.present b hb)
        (Option.some.inj hnode)
    · obtain ⟨own, -, hl⟩ := mem_flatMap.mp hl
      exact (kept_device hl).2
    · obtain ⟨own, -, rfl⟩ := mem_map.mp hl
      exact ⟨own.lineAs_ne_nil own.node_word, own.newline_not_mem_lineAs own.node_word⟩
  · exact fun h => by rw [lines_of_toldApart h]

/-- The UUIDs of the line of an array: those in its name, and its own. -/
theorem uuids_lineAs (own : MdArray) :
    (textFields (own.lineAs own.node)).filterMap (afterPrefix "UUID=") =
      own.namedUUIDs ++ [own.uuid] := by
  have harray : afterPrefix "UUID=" "ARRAY" = none := by decide
  have hnode : afterPrefix "UUID=" own.node = none := by simp [afterPrefix, MdArray.node]
  have hmeta : afterPrefix "UUID=" ("metadata=" ++ own.metadata) = none := by simp [afterPrefix]
  have huuid : afterPrefix "UUID=" ("UUID=" ++ own.uuid) = some own.uuid := by simp [afterPrefix]
  rw [own.textFields_lineAs own.node_word, MdArray.attrs]
  simp [harray, hnode, hmeta, huuid, MdArray.namedUUIDs]

/-- Texts that are longer by some parts are the same only if these parts are empty. -/
theorem flatMap_append_eq_iff {α β : Type} {l : List α} {f g : α → List β} :
    (l.flatMap fun a => f a ++ g a) = l.flatMap g ↔ ∀ a ∈ l, f a = [] := by
  constructor
  · intro h a ha
    have hlength := congrArg List.length h
    simp only [length_flatMap, length_append, sum_map_add] at hlength
    have hzero : (l.map fun a => (f a).length).sum = 0 := by omega
    exact length_eq_zero_iff.mp (sum_eq_zero_iff.mp hzero _ (mem_map_of_mem ha))
  · intro h
    exact flatMap_congr fun a ha => by rw [h a ha, nil_append]

/-- **The UUIDs for dracut** are those of the mirror arrays exactly if their names have none. -/
theorem uuids_own_iff : dracutMirrorConf host.ownLines = host.ownFiles.2 ↔
    ∀ own ∈ host.mirror, own.namedUUIDs = [] := by
  have hjoin : dracutMirrorConf host.ownLines = host.ownFiles.2 ↔
      (host.mirror.flatMap fun own => own.namedUUIDs.flatMap (fun u => (uuidArgument u).toList) ++
        (uuidArgument own.uuid).toList) =
      host.mirror.flatMap fun own => (uuidArgument own.uuid).toList := by
    rw [dracutMirrorConf, MdHost.ownLines, flatMap_map, MdHost.ownFiles, ← String.toList_inj]
    simp [uuids_lineAs, flatMap_assoc, flatMap_map]
  rw [hjoin, flatMap_append_eq_iff]
  have hargument : ∀ u, (uuidArgument u).toList ≠ [] := fun u => by simp [uuidArgument]
  refine forall₂_congr fun own _ => ?_
  rw [flatMap_eq_nil_iff, eq_nil_iff_forall_not_mem]
  exact forall₂_congr fun u _ => iff_false_intro (hargument u)

end Files

/-- **The mirror arrays and no others are recorded** exactly if each looks like itself and no other
    array of the host looks like it; dracut assembles these and no others exactly if no UUID stands
    in their names either. -/
theorem recorded_own_iff (host : MdHost) :
    ((∀ own ∈ host.mirror, mdadmArrayLines own.node host.scan = [own.lineAs own.node]) ↔
        host.ToldApart) ∧
      (configureMdadmAt (.ok host.scan) host.mirrorArrays = .ok host.ownFiles ↔
        host.ToldApart ∧ ∀ own ∈ host.mirror, own.namedUUIDs = []) := by
  refine ⟨kept_own_iff host, ?_⟩
  rw [configureMdadmAt_ok, Except.ok.injEq, Prod.ext_iff]
  rw [show host.ownFiles.1 = mdadmConf host.ownLines from rfl, lines_own_iff]
  refine and_congr_right fun happart => ?_
  rw [lines_of_toldApart happart, uuids_own_iff]

/-- A host with the root mirror and an array that was made on another host. -/
def foreignHost : MdHost where
  arrays :=
    [⟨"2", "/dev/md2", "1.0", "booty:2", "a:a:a:a", by decide, by decide, by decide, by decide,
        by decide⟩,
      ⟨"127", "/dev/md/storage:2", "1.2", "storage:2", "b:b:b:b", by decide, by decide, by decide,
        by decide, by decide⟩]
  nodes := by decide
  uuids := by decide
  mirror := [⟨"2", "/dev/md2", "1.0", "booty:2", "a:a:a:a", by decide, by decide, by decide,
    by decide, by decide⟩]
  present := by simp

/-- **The foreign array is recorded as the root mirror.** -/
theorem foreign_array_recorded :
    mdadmArrayLines "/dev/md2" foreignHost.scan =
        ["ARRAY /dev/md2 metadata=1.0 name=booty:2 UUID=a:a:a:a",
          "ARRAY /dev/md2 metadata=1.2 name=storage:2 UUID=b:b:b:b"] ∧
      (configureMdadmAt (.ok foreignHost.scan) foreignHost.mirrorArrays).map Prod.snd =
        .ok (dracutHeader ++ " rd.md.uuid=a:a:a:a rd.md.uuid=b:b:b:b \"\n") := by
  refine ⟨by decide +kernel, ?_⟩
  rw [configureMdadmAt_ok]
  decide +kernel

end Booty.Provision
