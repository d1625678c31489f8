import Booty.Lib.GoMap
import Booty.Lib.GoPath
import Booty.Lib.GoString
import Booty.Lib.Octal
import Booty.Lib.Outcome

namespace Booty.Disk

open Booty.Lib

/-!
# Which block devices are in use

`busyDevices` reads the mount table and the swap list and marks every device that they name, the
devices below it and, for a partition, its disk.  `CheckNotInUse` refuses a marked device.

* `Host` — what sysfs, proc and `/dev` answer.
* `markBusy` — the recursion; `markMounts`, `markBtrfsMembers` — its starts.
* `checkNotInUse`.
-/

/-- The answer of a read: a result, `fs.ErrNotExist` or another error. -/
inductive Answer (α : Type)
  | found (a : α)
  | missing
  | failed (err : String)

/-- The entries of a directory that need not exist; `what` starts the error. -/
def Answer.entries (what : String) : Answer (List String) → Outcome String (List String)
  | .found l => .ok l
  | .missing => .ok []
  | .failed err => .err (what ++ ": " ++ err)

/-- What the host's files answer.  The block devices are those of `/sys/class/block`; only they have
    slaves, are partitions or belong to a btrfs file system. -/
structure Host where
  devices : List String
  /-- `Stat` of a directory of sysfs. -/
  statDir : String → Option String
  mountinfo : Except String (List Char)
  swaps : Answer (List Char)
  /-- `Readlink` of `/sys/dev/block/<number>`. -/
  devBlock : String → Answer String
  slaves : String → Answer (List String)
  /-- `Stat` of the file `partition`. -/
  partition : String → Answer Unit
  /-- `EvalSymlinks` of `/sys/class/block/<name>`. -/
  resolved : String → Except String String
  /-- `EvalSymlinks` of a path of `/dev`. -/
  evalSymlinks : String → Option String
  /-- The file systems in `/sys/fs/btrfs`, and the devices of each. -/
  btrfs : Answer (List String)
  btrfsDevices : String → Answer (List String)
  nameless : "" ∉ devices
  slaves_device : ∀ n l, slaves n = .found l → n ∈ devices
  partition_device : ∀ n, partition n = .found () → n ∈ devices
  btrfs_device : ∀ fsys l n, btrfsDevices fsys = .found l → n ∈ l → n ∈ devices

/-- The reasons by kernel name. -/
abbrev Busy := GoMap String String

namespace Host

variable (h : Host)

/-- `blockName`. -/
def blockName (device : String) : String := base ((h.evalSymlinks device).getD device)

/-- `unescapeMount`. -/
def unescapeMount (s : String) : String := String.ofList (octalUnescape s.toList)

/-- `markBusy`, with a bound on the depth of the recursion. -/
def markBusyFrom : Nat → Busy → String → String → Outcome String Busy
  | 0, _, _, _ => .fault .outOfFuel
  | fuel + 1, busy, name, reason =>
    if (busy.get name).isSome ∨ name = "" then .ok busy
    else do
      let slaves ← (h.slaves name).entries ("read slaves of " ++ name)
      let busy ← slaves.foldlM (fun busy s => markBusyFrom fuel busy s reason)
        (busy.set name reason)
      match h.partition name with
      | .missing => .ok busy
      | .failed err => .err ("stat partition of " ++ name ++ ": " ++ err)
      | .found () =>
        match h.resolved name with
        | .error err => .err ("resolve disk of " ++ name ++ ": " ++ err)
        | .ok path => markBusyFrom fuel busy (base (dir path)) reason

variable (busy : Busy)

/-- `markBusy`: a path of new names is not longer than the list of devices. -/
def markBusy (name reason : String) : Outcome String Busy :=
  h.markBusyFrom (h.devices.length + 1) busy name reason

/-- `markBusy` for each name. -/
def markEach (names : List String) (reason : String) : Outcome String Busy :=
  names.foldlM (fun busy name => h.markBusy busy name reason) busy

/-- The loop of `markBtrfsMembers` over the file systems. -/
def markFileSystem (name reason : String) (busy : Busy) (fsys : String) : Outcome String Busy := do
  let devices ← (h.btrfsDevices fsys).entries ("read btrfs devices of " ++ fsys)
  if name ∈ devices then h.markEach busy devices reason else .ok busy

/-- `markBtrfsMembers`. -/
def markBtrfsMembers (name reason : String) : Outcome String Busy :=
  match h.btrfs with
  | .missing => .ok busy
  | .failed err => .err ("read btrfs devices: " ++ err)
  | .found filesystems => filesystems.foldlM (h.markFileSystem name reason) busy

/-- `strings.Split(s, ":")`. -/
def splitColon (s : String) : List String := (s.toList.splitOn ':').map String.ofList

/-- A path below `/dev/`. -/
def isDevPath (s : String) : Bool := "/dev/".toList.isPrefixOf s.toList

/-- What `markMounts` takes from a line: device number, mount point, type and source. -/
structure MountFields where
  number : String
  mountpoint : String
  fstype : String
  source : String
deriving DecidableEq, Repr

/-- The fields of a line, if it has enough of them. -/
def mountFields (line : List Char) : Option MountFields :=
  let fs := fields line
  match fs.findIdx? (· = "-") with
  | none => none
  | some sep =>
    if fs.length < 5 ∨ fs.length ≤ sep + 2 then none
    else some ⟨fs.getD 2 "", unescapeMount (fs.getD 4 ""), fs.getD (sep + 1) "",
      unescapeMount (fs.getD (sep + 2) "")⟩

/-- The part of `markMounts` for the device number. -/
def markNumber (number reason : String) : Outcome String Busy :=
  match h.devBlock number with
  | .found link => h.markBusy busy (base link) reason
  | .missing => .ok busy
  | .failed err => .err ("resolve device " ++ number ++ ": " ++ err)

/-- The part for the source. -/
def markSource (source reason : String) : Outcome String Busy :=
  if isDevPath source then h.markEach busy ((splitColon source).map h.blockName) reason
  else .ok busy

/-- The body of the loop of `markMounts`. -/
def markMount (m : MountFields) : Outcome String Busy := do
  let reason := "the file system mounted at " ++ m.mountpoint
  let busy ← h.markNumber busy m.number reason
  let busy ← h.markSource busy m.source reason
  if m.fstype = "btrfs" then h.markBtrfsMembers busy (h.blockName m.source) reason else .ok busy

/-- The longest line that `bufio.Scanner` takes. -/
def maxScanTokenSize : Nat := 64 * 1024

/-- A line without its carriage return. -/
def dropCR (line : List Char) : List Char :=
  if line.getLast? = some '\r' then line.dropLast else line

/-- The lines of a file for a `bufio.Scanner`, up to one that is too long. -/
def scanLines (data : List Char) : List (List Char) × Bool :=
  let all := data.splitOn '\n'
  let lines := if all.getLast? = some [] then all.dropLast else all
  ((lines.takeWhile fun l => l.length < maxScanTokenSize).map dropCR,
    lines.any fun l => maxScanTokenSize ≤ l.length)

/-- A line of the mount table. -/
def markLine (line : List Char) : Outcome String Busy :=
  match mountFields line with
  | none => .ok busy
  | some m => h.markMount busy m

/-- `markMounts`. -/
def markMounts : Outcome String Busy :=
  match h.mountinfo with
  | .error err => .err ("read mountinfo: " ++ err)
  | .ok data => do
    let busy ← (scanLines data).1.foldlM h.markLine busy
    if (scanLines data).2 then .err "scan mountinfo: bufio.Scanner: token too long" else .ok busy

/-- The device path of a line of the swap list; a swap file has none. -/
def swapDevice (line : List Char) : Option String :=
  match fields line with
  | [] => none
  | path :: _ => if isDevPath path then some (unescapeMount path) else none

/-- A line of the swap list. -/
def markSwap (line : List Char) : Outcome String Busy :=
  match swapDevice line with
  | none => .ok busy
  | some path => h.markBusy busy (h.blockName path) ("the active swap " ++ path)

/-- The loop of `busyDevices` over the swap list; the first line is a header. -/
def markSwaps (swaps : List Char) : Outcome String Busy :=
  ((swaps.splitOn '\n').drop 1).foldlM h.markSwap busy

/-- `busyDevices`. -/
def busyDevices : Outcome String Busy :=
  match (["dev/block", "class/block"].filterMap h.statDir).head? with
  | some err => .err ("sysfs: " ++ err)
  | none => do
    let busy ← h.markMounts ∅
    match h.swaps with
    | .found swaps => h.markSwaps busy swaps
    | .missing => h.markSwaps busy []
    | .failed err => .err ("read swaps: " ++ err)

/-- The errors of `CheckNotInUse`: `InUseError`, or `ErrInUseCheck` with its cause. -/
inductive CheckError
  | inUse (device reason : String)
  | unchecked (device err : String)
deriving DecidableEq, Repr

/-- `CheckNotInUse`; `fake` is a `Commander` that changes no real disk. -/
def checkNotInUse (fake : Bool) (device : String) : Outcome CheckError Unit :=
  if fake then .ok ()
  else
    match h.busyDevices with
    | .fault p => .fault p
    | .err err => .err (.unchecked device err)
    | .ok busy =>
      match busy.get (h.blockName device) with
      | some reason => .err (.inUse device reason)
      | none => .ok ()

end Host

end Booty.Disk
