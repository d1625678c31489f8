import Booty.Disk.Tables
import Booty.Lib.AbsPath
import Booty.Lib.Mounting
import Booty.Lib.SortBy

namespace Booty.Disk

open Booty.Lib

/-!
# Releasing the mounts of the target

`UnmountRecursive` and `UnmountOrRemountReadOnly` read the mount table once, take the mount points
at or below a root, each once, and unmount them, those with the longest texts first.

* `Mounted`, `Kernel` — the mount table of the kernel, and what it does on a call.
* `Kernel.unmountRecursive`, `Kernel.unmountOrRemountReadOnly`.
* `Kernel.releaseStaleTargetMounts` — the step of the orchestrator before a new attempt.
-/

/-! ### The kernel -/

/-- A mount: where it is, its file system `fs`, and whether that is on a block device. -/
structure Mounted where
  source : String
  point : List (List Char)
  fstype : String
  options : String
  fs : Nat
  block : Bool
  readOnly : Bool
  names : ∀ e ∈ point, IsName e
  oneLine : '\n' ∉ options.toList

namespace Mounted

/-- The line of `/proc/mounts`. -/
def line (m : Mounted) : List Char :=
  (mangle m.source).toList ++ ' ' :: (escapePath (pathText m.point)).toList ++
    ' ' :: (mangle m.fstype).toList ++ ' ' :: m.options.toList ++ " 0 0".toList

/-- The path of the mount point. -/
def path (m : Mounted) : String := pathText m.point

/-- A block device file system that can be written. -/
def Writable (m : Mounted) : Prop := m.block = true ∧ m.readOnly = false

/-- The second field of the line. -/
def target (m : Mounted) : Option String := (fields m.line)[1]?

/-- The first field of the line. -/
def sourceField (m : Mounted) : Option String := (fields m.line)[0]?

end Mounted

/-- The content of `/proc/mounts`. -/
def mountsFile (t : List Mounted) : List Char := textOf (t.map Mounted.line)

/-- The errors of the kernel. -/
inductive Errno
  | inval | noEnt | busy | other (text : String)
deriving DecidableEq, Repr

/-- Their texts. -/
def Errno.text : Errno → String
  | inval => "invalid argument"
  | noEnt => "no such file or directory"
  | busy => "device or resource busy"
  | other text => text

/-- The errors that are taken as a missing mount. -/
def Errno.isGone (e : Errno) : Bool := e = .inval || e = .noEnt

/-- A reason not to unmount a mount that is there: it is in use, or something else. -/
inductive Refusal
  | busy | other (text : String)

/-- The error of a refusal. -/
def Refusal.errno : Refusal → Errno
  | busy => .busy
  | other text => .other text

/-- What the code cannot choose: the answers of the kernel, and the order of a map. -/
structure Kernel where
  readError : Option String
  pathExists : List Mounted → String → Bool
  refuses : List Mounted → String → Option Refusal
  remountRefuses : List Mounted → String → Option String
  iterate : List String → List String
  iterate_perm : ∀ l, (iterate l).Perm l
  /-- The text of `%q`. -/
  quote : String → String

namespace Kernel

variable (k : Kernel)
variable (root : String) (t : List Mounted)

/-- `unmount(2)`: the mount that the path leads to, unless another one is on it. -/
def unmount (target : String) : Except Errno (List Mounted) :=
  match reached Mounted.point t (elements target) with
  | none => .error (if k.pathExists t target then .inval else .noEnt)
  | some (pre, m, post) =>
    if post.any fun x => decide (m.point <+: x.point) then .error .busy
    else
      match k.refuses t target with
      | some refusal => .error refusal.errno
      | none => .ok (pre ++ post)

/-- The mounts of a file system become read-only with it. -/
def markReadOnly (fs : Nat) (m : Mounted) : Mounted :=
  if m.fs = fs then { m with readOnly := true } else m

/-- `remountReadOnlyFunc`. -/
def remountReadOnly (target : String) : Except String (List Mounted) :=
  match reached Mounted.point t (elements target) with
  | none => .error Errno.inval.text
  | some (_, m, _) =>
    match k.remountRefuses t target with
    | some err => .error err
    | none => .ok (t.map (markReadOnly m.fs))

/-! ### The code -/

/-- The mount points of a mount table at or below a root, each once. -/
def seenBelow (data : List Char) : List String :=
  (((data.splitOn '\n').filterMap fun line => (fields line)[1]?).filter fun target =>
    decide (target = root) || (root.toList ++ ['/']).isPrefixOf target.toList).dedup

/-- The root as `mountedSubpathsFrom` takes it. -/
def cleanRoot : String := clean (trimFields root.toList)

/-- A root that `mountedSubpathsFrom` refuses. -/
abbrev Refused : Prop :=
  cleanRoot root = "." ∨ cleanRoot root = "/" ∨ isAbs (cleanRoot root) = false

/-- `mountedSubpathsFrom`. -/
def mountedSubpathsFrom (data : List Char) : Except String (List String) :=
  if Refused root then
    .error ("refusing unsafe recursive unmount root " ++ k.quote (cleanRoot root))
  else
    .ok (sortBy (fun target => -(target.toList.length : Int))
      (k.iterate (seenBelow (cleanRoot root) data)))

/-- A loop over the targets: the result for each, and the mounts at the end. -/
def each {R : Type} (step : List Mounted → String → R × List Mounted) :
    List String → List Mounted → List (String × R) × List Mounted
  | [], t => ([], t)
  | target :: targets, t =>
    let (r, t') := step t target
    let (rs, t'') := each step targets t'
    ((target, r) :: rs, t'')

/-- The body of the loop of `UnmountRecursive`. -/
def unmountStep (target : String) : Option String × List Mounted :=
  match k.unmount t target with
  | .ok t' => (none, t')
  | .error err =>
    if err.isGone then (none, t) else (some ("unmount " ++ target ++ ": " ++ err.text), t)

/-- `errors.Join`. -/
def joinErrors (errs : List String) : Option String :=
  if errs = [] then none else some ("\n".intercalate errs)

/-- `UnmountRecursive`: its error, and the mounts that are left. -/
def unmountRecursive : Option String × List Mounted :=
  match k.readError with
  | some err => (some ("read mounts: " ++ err), t)
  | none =>
    match k.mountedSubpathsFrom root (mountsFile t) with
    | .error err => (some err, t)
    | .ok targets =>
      let (rs, t') := each k.unmountStep targets t
      (joinErrors (rs.filterMap Prod.snd), t')

/-- The body of the loop of `mountSourcesFrom`. -/
def addSource (sources : GoMap String String) (line : List Char) : GoMap String String :=
  match fields line with
  | source :: target :: _ => sources.set target source
  | _ => sources

/-- `mountSourcesFrom`. -/
def mountSourcesFrom (data : List Char) : GoMap String String :=
  (data.splitOn '\n').foldl addSource ∅

/-- What `UnmountOrRemountReadOnly` did with a mount, as in `ReleaseReport`. -/
inductive Released
  | unmounted
  | readOnly
  | leftAlone
  | stillWrite (err : String)

/-- The error of a mount that stays writable. -/
def Released.err : Released → Option String
  | .stillWrite err => some err
  | _ => none

/-- The body of the loop of `UnmountOrRemountReadOnly`. -/
def releaseStep (sources : GoMap String String) (t : List Mounted) (target : String) :
    Released × List Mounted :=
  match k.unmount t target with
  | .ok t' => (.unmounted, t')
  | .error err =>
    if err.isGone then (.unmounted, t)
    else if !("/dev/".toList).isPrefixOf ((sources.get target).getD "").toList then (.leftAlone, t)
    else
      match k.remountReadOnly t target with
      | .error rerr => (.stillWrite ("unmount " ++ target ++ ": " ++ err.text ++
          "; remount read-only: " ++ rerr), t)
      | .ok t' => (.readOnly, t')

/-- `UnmountOrRemountReadOnly`: the report, the error, and the mounts that are left. -/
def unmountOrRemountReadOnly : List (String × Released) × Option String × List Mounted :=
  match k.readError with
  | some err => ([], some ("mounts unknown: read mounts: " ++ err), t)
  | none =>
    match k.mountedSubpathsFrom root (mountsFile t) with
    | .error err => ([], some err, t)
    | .ok targets =>
      let (rs, t') := each (k.releaseStep (mountSourcesFrom (mountsFile t))) targets t
      (rs, joinErrors (rs.filterMap fun r => r.2.err), t')

/-! ### The orchestrator -/

/-- `defaultIsMountPoint`. -/
def isMountPoint (path : String) : Bool :=
  k.readError.isNone &&
    ((mountsFile t).splitOn '\n').any fun line => decide ((fields line)[1]? = some path)

/-- The body of the loop of `unmountSharedData`. -/
def unmountShared (mountpoint : String) : Option String × List Mounted :=
  if !k.isMountPoint t mountpoint then (none, t)
  else
    match k.unmount t mountpoint with
    | .ok t' => (none, t')
    | .error err => (some ("unmount shared data mountpoint " ++ mountpoint ++ ": unmount " ++
        mountpoint ++ ": " ++ err.text), t)

/-- The root of the target. -/
def newroot : String := "/newroot"

/-- `releaseStaleTargetMounts`: its error, the shared mounts that are kept, and the mounts that are
    left.  An error of a shared mount is logged. -/
def releaseStaleTargetMounts (sharedMounts : List String) :
    Option String × List String × List Mounted :=
  match k.unmountRecursive newroot (each k.unmountShared sharedMounts.reverse t).2 with
  | (some err, t') => (some ("unmounting target root " ++ newroot ++
      " left by an earlier attempt: " ++ err), sharedMounts, t')
  | (none, t') => (none, [], t')

end Kernel

end Booty.Disk
