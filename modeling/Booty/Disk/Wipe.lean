import Booty.Disk.InUse
import Booty.Lib.Journal
import Booty.Lib.Regex
import Booty.Lib.Text

namespace Booty.Disk

open Booty.Lib

/-!
# Wiping and erasing disks

The operations of the disk manager that destroy data: the wipes, the secure erase, the discard and
the NVMe namespace layout.  A run is the journal of its in-use checks and commands.

* `Cmd` — the commands.
* `Tools` — the answers of the commands and of sysfs, and the manager's settings.
* `Entry`, `Tools.run` — the operations.
-/

/-- The commands that the operations run. -/
inductive Cmd
  | lsblkTree (device : String)
  | lvchangeOff (name : String)
  | cryptsetupClose (name : String)
  | mdadmStop (name : String)
  | pvremove (name : String)
  | zeroSuperblock (name : String)
  | wipefs (device : String)
  | ddZero (device : String) (count seek : Int)
  | sgdiskZap (device : String)
  | blkdiscard (device : String)
  | nvmeFormat (device : String)
  | hdparmIdentify (device : String)
  | hdparmSetPass (password device : String)
  | hdparmErase (password device : String)
  | hdparmDisable (password device : String)
  | sgSanitize (action : List String) (device : String)
  | sgFormat (device : String)
  | idCtrl (controller : String)
  | listNs (controller : String)
  | deleteNs (controller nsid : String)
  | createNs (controller : String) (blocks : Nat) (blockSize : Int)
  | attachNs (controller nsid cntlid : String)
deriving DecidableEq, Repr

/-- A device of `lsblk --json`. -/
inductive BlockNode
  | mk (name type fstype : String) (size : Option Int) (children : List BlockNode)

namespace BlockNode

/-- `NAME` of lsblk. -/
def name : BlockNode → String
  | mk name _ _ _ _ => name

/-- `TYPE` of lsblk. -/
def type : BlockNode → String
  | mk _ type _ _ _ => type

/-- `FSTYPE` of lsblk. -/
def fstype : BlockNode → String
  | mk _ _ fstype _ _ => fstype

/-- `SIZE` of lsblk. -/
def size : BlockNode → Option Int
  | mk _ _ _ size _ => size

/-- What lies on the device. -/
def children : BlockNode → List BlockNode
  | mk _ _ _ _ children => children

end BlockNode

/-- The output of a command: its text, and what the JSON decoder makes of it. -/
structure Output where
  text : String
  tree : Option (List BlockNode)
  nsids : Except String (List Int)
  info : Except String (String → Option String)

/-- A failed command: `isExecNotFound`, the exit code, the text of the error and the output. -/
structure CmdError where
  notFound : Bool
  exitCode : Option Int
  text : String
  output : String

/-- The output without outer blanks and the error, as in `"%s: %w"`. -/
def CmdError.trimmed (err : CmdError) : String := trimSpace err.output ++ ": " ++ err.text

/-- The output as it is and the error. -/
def CmdError.whole (err : CmdError) : String := err.output ++ ": " ++ err.text

/-- What a run does: an in-use check with its outcome, or a command with its answer. -/
inductive Event
  | checked (device : String) (outcome : Outcome Host.CheckError Unit)
  | ran (cmd : Cmd) (answer : Except CmdError Output)

/-- The answers of the host, each for the run so far, and the settings of the manager. -/
structure Tools where
  answer : List Event → Cmd → Except CmdError Output
  /-- The files that `CheckNotInUse` reads. -/
  host : List Event → Host
  /-- The `Commander` changes no real disk. -/
  fake : Bool
  /-- The path of the directory `block` of sysfs, and its entries. -/
  blockDir : String
  blockNames : Except String (List String)
  /-- The file `device/vendor` of a disk. -/
  vendor : List Event → String → Except String String
  /-- `ctx.Err() != nil`. -/
  canceled : List Event → Bool
  erasePassword : List Event → Except String String
  /-- The text of `%q`. -/
  quote : String → String
  quickWipe : Bool
  eraseFallbackWipe : Bool

/-- The operations, with error texts. -/
abbrev Steps := Logged Event String

/-- The text of the error. -/
def Host.CheckError.text : Host.CheckError → String
  | .inUse device reason => "refusing to wipe " ++ device ++ ": it backs " ++ reason
  | .unchecked device err =>
    "refusing to wipe " ++ device ++ ": cannot check whether it is in use: " ++ err

/-- A whole text matches an expression: `^…$`. -/
def matchesWhole (re : Regex) (s : String) : Bool :=
  (re.run ⟨none, s.toList⟩ [] fun c _ => if c.rest = [] then some () else none).isSome

/-- The digits. -/
def digitClass : CharClass := ⟨[(0x30, 0x39)], false⟩

/-- `\d+`. -/
def digits : Regex := .plus (.one digitClass)

/-- `nvmePathNodeRE`. -/
def nvmePathNodeRE : Regex :=
  .seqs [.text "nvme", digits, .text "c", digits, .text "n", digits]

/-- `nvmeControllerPathRE`. -/
def nvmeControllerPathRE : Regex := .seqs [.text "/dev/nvme", digits]

/-- `nsidRE`. -/
def nsidRE : Regex := .seqs [.one ⟨[(0x31, 0x39)], false⟩, .star true (.one digitClass)]

/-- `strings.HasPrefix`. -/
def startsWith (start s : String) : Bool := start.toList.isPrefixOf s.toList

/-- `isVirtualDisk`. -/
def isVirtualDisk (name : String) : Bool :=
  ["loop", "sr", "ram", "zram", "dm-", "md", "zd", "nbd"].any (startsWith · name) ||
    matchesWhole nvmePathNodeRE name

namespace Tools

variable (env : Tools)

/-- `m.cmd.Run`. -/
def exec (cmd : Cmd) : Steps (Except CmdError Output) := do
  let t ← Logged.journal
  Logged.record (.ran cmd (env.answer t cmd))
  pure (env.answer t cmd)

/-- `CheckNotInUse`. -/
def checkNotInUse (device : String) : Steps (Option Host.CheckError) := do
  let t ← Logged.journal
  let outcome := (env.host t).checkNotInUse env.fake device
  Logged.record (.checked device outcome)
  match outcome with
  | .ok () => pure none
  | .err err => pure (some err)
  -- no case of the code: the recursion of `busyDevices` stays within its bound
  | .fault _ => Logged.fail "fault"

/-- A command whose failure is only logged. -/
def bestEffort (cmd : Cmd) : Steps Unit := do
  let _ ← env.exec cmd
  pure ()

/-! ### The wipe of a device -/

/-- `blockTree`. -/
def blockTree (device : String) : Steps (Option BlockNode) := do
  match ← env.exec (.lsblkTree device) with
  | .error _ => pure none
  | .ok out => pure (out.tree.bind List.head?)

/-- The command of `releaseHolders` that stops a device. -/
def stopCommand (name type : String) : Option Cmd :=
  if type = "lvm" then some (.lvchangeOff name)
  else if type = "crypt" then some (.cryptsetupClose name)
  else if startsWith "raid" type then some (.mdadmStop name)
  else none

/-- The step of `releaseHolders` for one device, after its children. -/
def stopHolder (name type : String) : Steps Unit :=
  match stopCommand name type with
  | none => pure ()
  | some cmd => do
    match ← env.exec cmd with
    | .ok _ => pure ()
    | .error err => Logged.fail ("stop " ++ type ++ " " ++ name ++ " before the wipe: " ++
      err.trimmed)

mutual

/-- `releaseHolder`. -/
def releaseHolder : BlockNode → Steps Unit
  | .mk name type _ _ children => do
    releaseHolders children
    env.stopHolder name type

/-- `releaseHolders`. -/
def releaseHolders : List BlockNode → Steps Unit
  | [] => pure ()
  | n :: rest => do
    releaseHolder n
    releaseHolders rest

end

/-- `removeMembership`. -/
def removeMembership (n : BlockNode) : Steps Unit :=
  if n.fstype = "LVM2_member" then env.bestEffort (.pvremove n.name)
  else if n.fstype = "linux_raid_member" then env.bestEffort (.zeroSuperblock n.name)
  else pure ()

/-- The sectors that are cleared at each end of a disk. -/
def edgeSectors : Int := 2048

variable (device : String)

/-- `zeroEdges`. -/
def zeroEdges (size : Option Int) : Steps Unit :=
  let sectors := (size.map fun b => b.tdiv 512).getD 0
  let count := if 0 < sectors ∧ sectors < edgeSectors then sectors else edgeSectors
  let offsets := if edgeSectors < sectors then [0, sectors - edgeSectors] else [0]
  offsets.forM fun seek => env.bestEffort (.ddZero device count seek)

/-- `wipeMember`. -/
def wipeMember (n : BlockNode) : Steps Unit := do
  env.removeMembership n
  env.bestEffort (.wipefs n.name)
  env.zeroEdges n.name n.size

/-- The part of `wipeDevice` for the partitions and holders. -/
def wipeTree (root : BlockNode) : Steps Unit := do
  env.releaseHolders root.children
  (root.children.filter fun n => n.type = "part").forM env.wipeMember
  env.removeMembership root

/-- The end of `wipeDevice` after the signatures are gone. -/
def wipeRest (root : Option BlockNode) : Steps Unit :=
  if env.quickWipe then pure ()
  else do
    root.forM fun n => env.zeroEdges device n.size
    env.bestEffort (.blkdiscard device)

/-- The tree of a thorough wipe. -/
def wipeRoot : Steps (Option BlockNode) :=
  if env.quickWipe then pure none else env.blockTree device

/-- `wipeDevice`. -/
def wipeDevice : Steps Unit := do
  let root ← env.wipeRoot device
  root.forM env.wipeTree
  env.bestEffort (.sgdiskZap device)
  match ← env.exec (.wipefs device) with
  | .error err => Logged.fail err.text
  | .ok _ => env.wipeRest device root

/-- `WipeDisk`. -/
def wipeDisk : Steps Unit :=
  if trimSpace device = "" then Logged.fail "wipe disk: device is required"
  else do
    match ← env.checkNotInUse (trimSpace device) with
    | some err => Logged.fail err.text
    | none =>
      (env.wipeDevice (trimSpace device)).mapError ("wipefs " ++ trimSpace device ++ ": " ++ ·)

/-- `WipeFilesystemSignatures`. -/
def wipeFilesystemSignatures : Steps Unit :=
  if trimSpace device = "" then Logged.fail "wipe filesystem signatures: device is required"
  else do
    match ← env.checkNotInUse (trimSpace device) with
    | some err => Logged.fail err.text
    | none =>
      match ← env.exec (.wipefs (trimSpace device)) with
      | .error err => Logged.fail ("wipefs " ++ trimSpace device ++ ": " ++ err.text)
      | .ok _ => pure ()

/-- What an operation on all disks has done. -/
structure Tally where
  done : Nat
  skipped : List String
  errs : List String

/-- `allDisksResult`. -/
def allDisksResult (op : String) (r : Tally) : Steps Unit :=
  if r.errs ≠ [] ∧ r.done = 0 then
    Logged.fail ("all " ++ toString r.errs.length ++ " disk " ++ op ++ "(s) failed: " ++
      "\n".intercalate r.errs)
  else if r.errs ≠ [] then
    Logged.fail (op ++ " done on " ++ toString r.done ++ " disk(s) but " ++
      toString r.errs.length ++ " failed: " ++ "\n".intercalate r.errs)
  else if r.done = 0 ∧ r.skipped ≠ [] then
    Logged.fail ("no disk wiped: every disk is in use (" ++ ", ".intercalate r.skipped ++ ")")
  else pure ()

/-- One disk of an operation on all disks; `wrap` is the text of its error. -/
def oneDisk (op : String → Steps Unit) (wrap : String → String → String) (r : Tally)
    (dev : String) : Steps Tally := do
  match ← env.checkNotInUse dev with
  | some (.inUse _ _) => pure { r with skipped := r.skipped ++ [dev] }
  | some err => pure { r with errs := r.errs ++ [err.text] }
  | none =>
    match ← (op dev).attempt with
    | .error err => pure { r with errs := r.errs ++ [wrap dev err] }
    | .ok () => pure { r with done := r.done + 1 }

/-- The loop of an operation on all disks. -/
def eachDisk (op : String → Steps Unit) (wrap : String → String → String) :
    List String → Tally → Steps Tally
  | [], r => pure r
  | dev :: devs, r => do
    let r ← env.oneDisk op wrap r dev
    eachDisk op wrap devs r

/-- An operation on every disk of `/sys/block` that is not virtual. -/
def allDisks (what : String) (op : String → Steps Unit) (wrap : String → String → String) :
    Steps Unit :=
  match env.blockNames with
  | .error err => Logged.fail ("reading " ++ env.blockDir ++ ": " ++ err)
  | .ok names => do
    let devs := (names.filter fun n => !isVirtualDisk n).map ("/dev/" ++ ·)
    let r ← env.eachDisk op wrap devs ⟨0, [], []⟩
    allDisksResult what r

/-- `WipeAllDisks`. -/
def wipeAllDisks : Steps Unit :=
  env.allDisks "wipe" env.wipeDevice fun dev err => dev ++ ": " ++ err

/-- The body of the loop of `DiscardNVMeDisks`. -/
def discardDisk (dev : String) : Steps Unit := do
  match ← env.checkNotInUse dev with
  | some _ => pure ()
  | none => env.bestEffort (.blkdiscard dev)

/-- `DiscardNVMeDisks`. -/
def discardNVMeDisks : Steps Unit :=
  match env.blockNames with
  | .error _ => pure ()
  | .ok names =>
    ((names.filter fun n => startsWith "nvme" n && !matchesWhole nvmePathNodeRE n).map
      ("/dev/" ++ ·)).forM env.discardDisk

/-! ### The secure erase -/

/-- The kinds of disks to erase. -/
inductive EraseMedia
  | unknown | nvme | ata | scsi
deriving DecidableEq, Repr

/-- `eraseMedia`. -/
def eraseMedia (t : List Event) (dev : String) : EraseMedia :=
  if startsWith "nvme" (base dev) then .nvme
  else if startsWith "sd" (base dev) then
    match env.vendor t (base dev) with
    | .error _ => .unknown
    | .ok vendor => if trimSpace vendor = "ATA" then .ata else .scsi
  else .unknown

/-- The error of a disk without secure erase. -/
def unsupported : String := "secure erase not supported"

/-- `secureEraseNVMe`. -/
def secureEraseNVMe (dev : String) : Steps Unit := do
  match ← env.exec (.nvmeFormat dev) with
  | .ok _ => pure ()
  | .error err =>
    if err.notFound then
      Logged.fail (dev ++ ": " ++ unsupported ++ ": the nvme tool is not in the initramfs: " ++
        err.text)
    else Logged.fail (dev ++ ": nvme format --ses=1 failed: " ++ err.trimmed)

/-- `strings.Lines`: every line with its end. -/
def linesWithEnd : List Char → List Char → List (List Char)
  | [], [] => []
  | [], line => [line.reverse]
  | '\n' :: cs, line => ('\n' :: line).reverse :: linesWithEnd cs []
  | c :: cs, line => linesWithEnd cs (c :: line)

/-- The loop of `ataSecurityState`. -/
def securityLines : Bool → List String → Bool × Bool → Bool × Bool
  | _, [], r => r
  | inSection, line :: lines, r =>
    if startsWith "Security:" line then securityLines true lines r
    else if !inSection then securityLines false lines r
    -- an empty line is its newline, so it ends the section
    else if line.toList.head?.any fun c => c ≠ ' ' && c ≠ '\t' then r
    else
      let words := " ".intercalate (textFields line)
      securityLines true lines (r.1 || words = "supported", r.2 || words = "frozen")

/-- `ataSecurityState`: supported and frozen. -/
def ataSecurityState (identify : String) : Bool × Bool :=
  securityLines false ((linesWithEnd identify.toList []).map String.ofList) (false, false)

/-- The commands of `secureEraseATA` that follow the identification. -/
def eraseATA (pwd dev : String) : Steps Unit := do
  match ← env.exec (.hdparmSetPass pwd dev) with
  | .error err => Logged.fail (dev ++ ": failed to set security password: " ++ err.whole)
  | .ok _ =>
    match ← env.exec (.hdparmErase pwd dev) with
    | .error err => do
      env.bestEffort (.hdparmDisable pwd dev)
      Logged.fail (dev ++ ": ATA security erase failed: " ++ err.text)
    | .ok _ => env.bestEffort (.hdparmDisable pwd dev)

/-- `secureEraseATA`. -/
def secureEraseATA (dev : String) : Steps Unit := do
  match ← env.exec (.hdparmIdentify dev) with
  | .error err =>
    if err.notFound then
      Logged.fail (dev ++ ": " ++ unsupported ++ ": the hdparm tool is not in the initramfs: " ++
        err.text)
    else Logged.fail (dev ++ ": hdparm -I failed: " ++ err.trimmed)
  | .ok out =>
    if !(ataSecurityState out.text).1 then
      Logged.fail (dev ++ ": " ++ unsupported ++ ": the drive has no ATA security feature set")
    else if (ataSecurityState out.text).2 then
      Logged.fail (dev ++ ": " ++ unsupported ++
        ": the drive is security-frozen (power-cycle or suspend it to unfreeze)")
    else do
      let t ← Logged.journal
      match env.erasePassword t with
      | .error err =>
        Logged.fail ("generate temporary erase password for " ++ dev ++ ": " ++ err)
      | .ok pwd => env.eraseATA pwd dev

/-- `sgRejected`. -/
def sgRejected (err : CmdError) : Bool := err.exitCode = some 5 || err.exitCode = some 9

/-- The end of `secureEraseSCSI`, after the drive has rejected every SANITIZE action. -/
def formatUnit (dev : String) (rejected : List String) : Steps Unit := do
  let reject (r : String) : Steps Unit :=
    Logged.fail (dev ++ ": " ++ unsupported ++ ": " ++ ", ".intercalate (rejected ++ [r]))
  match ← env.exec (.sgFormat dev) with
  | .ok _ => pure ()
  | .error err =>
    if err.notFound then reject "sg_format is not in the initramfs"
    else if sgRejected err then reject "FORMAT UNIT rejected"
    else Logged.fail (dev ++ ": sg_format --format failed: " ++ err.trimmed)

/-- The loop of `secureEraseSCSI` over the SANITIZE actions. -/
def sanitize (dev : String) : List (List String) → List String → Steps Unit
  | [], rejected => env.formatUnit dev rejected
  | action :: actions, rejected => do
    match ← env.exec (.sgSanitize action dev) with
    | .ok _ => pure ()
    | .error err =>
      if err.notFound then
        env.formatUnit dev (rejected ++ ["sg_sanitize is not in the initramfs"])
      else if !sgRejected err then
        Logged.fail (dev ++ ": sg_sanitize " ++ action.headD "" ++ " failed: " ++ err.trimmed)
      else sanitize dev actions (rejected ++ ["SANITIZE " ++ action.headD "" ++ " rejected"])

/-- `secureEraseSCSI`. -/
def secureEraseSCSI (dev : String) : Steps Unit :=
  env.sanitize dev [["--crypto"], ["--block"], ["--overwrite", "--zero"]] []

/-- The erase for the media type. -/
def eraseByMedia (dev : String) : Steps Unit := do
  let t ← Logged.journal
  match env.eraseMedia t dev with
  | .nvme => env.secureEraseNVMe dev
  | .ata => env.secureEraseATA dev
  | .scsi => env.secureEraseSCSI dev
  | .unknown =>
    Logged.fail (dev ++ ": " ++ unsupported ++ ": no secure erase method for this device type")

/-- The fallback of `secureErase` after a failed erase. -/
def eraseFallback (dev err : String) : Steps Unit := do
  let t ← Logged.journal
  if !env.eraseFallbackWipe || env.canceled t then Logged.fail err
  else do
    match ← (env.wipeDevice dev).attempt with
    | .error werr => Logged.fail (err ++ "; wipe fallback failed: " ++ werr)
    | .ok () => pure ()

/-- `secureErase`. -/
def secureErase (dev : String) : Steps Unit := do
  match ← env.checkNotInUse dev with
  | some err => Logged.fail err.text
  | none =>
    match ← (env.eraseByMedia dev).attempt with
    | .ok () => pure ()
    | .error err => env.eraseFallback dev err

/-- `SecureEraseDisk`. -/
def secureEraseDisk : Steps Unit :=
  if trimSpace device = "" then Logged.fail "secure erase disk: device is required"
  else do
    let t ← Logged.journal
    env.secureErase (((env.host t).evalSymlinks (trimSpace device)).getD (trimSpace device))

/-- `SecureEraseAllDisks`. -/
def secureEraseAllDisks : Steps Unit :=
  env.allDisks "secure erase" env.secureErase fun _ err => err

/-! ### NVMe namespaces -/

variable (controller : String)

/-- `NVMeIdentifyController`. -/
def identifyController : Steps (String → Option String) :=
  if !matchesWhole nvmeControllerPathRE controller then
    Logged.fail ("invalid NVMe controller path " ++ env.quote controller)
  else do
    match ← env.exec (.idCtrl controller) with
    | .error err => Logged.fail ("nvme id-ctrl " ++ controller ++ ": " ++ err.trimmed)
    | .ok out =>
      match out.info with
      | .error err => Logged.fail ("parsing nvme id-ctrl JSON for " ++ controller ++ ": " ++ err)
      | .ok info => pure info

/-- The token that `Sscanf` reads for `%d`. -/
def scanToken (signed : Bool) (s : String) : Except String String :=
  match s.toList.dropWhile fun c => isSpace c && c ≠ '\n' with
  | [] => .error "unexpected EOF"
  | '\n' :: _ => .error "unexpected newline"
  | c :: cs =>
    let sign := if signed && (c = '+' || c = '-') then [c] else []
    let rest := if sign = [] then c :: cs else cs
    if rest = [] then .error "unexpected EOF"
    else if rest.takeWhile Char.isDigit = [] then .error "expected integer"
    else .ok (String.ofList (sign ++ rest.takeWhile Char.isDigit))

/-- `Sscanf` with `%d` into an `int`. -/
def scanInt (s : String) : Except String Int := do
  let tok ← scanToken true s
  match atoi tok with
  | none => .error ("strconv.ParseInt: parsing " ++ env.quote tok ++ ": value out of range")
  | some n => .ok n

/-- `Sscanf` with `%d` into a `uint64`. -/
def scanUint (s : String) : Except String Nat := do
  let tok ← scanToken false s
  match parseUintBase10 64 tok with
  | none => .error ("strconv.ParseUint: parsing " ++ env.quote tok ++ ": value out of range")
  | some n => .ok n

/-- `NVMeSupportsMultiNS`. -/
def supportsMultiNS : Steps Bool := do
  let info ← env.identifyController controller
  match info "nn" with
  | none => pure false
  | some nn =>
    match env.scanInt nn with
    | .error err => Logged.fail ("parsing namespace count " ++ env.quote nn ++ ": " ++ err)
    | .ok count => pure (decide (1 < count))

/-- `nvmeControllerCapacity`. -/
def controllerCapacity : Steps Nat := do
  let info ← (env.identifyController controller).mapError
    ("identifying controller " ++ controller ++ ": " ++ ·)
  match info "tnvmcap" with
  | none => Logged.fail ("controller " ++ controller ++ " missing tnvmcap field")
  | some tnvmcap =>
    match env.scanUint tnvmcap with
    | .error err => Logged.fail ("parsing tnvmcap " ++ env.quote tnvmcap ++ ": " ++ err)
    | .ok total => pure total

/-- `controllerIDFromInfo`. -/
def controllerIDFromInfo (info : String → Option String) : Steps String :=
  match info "cntlid" with
  | none => Logged.fail ("controller " ++ controller ++ " has no valid cntlid " ++ env.quote "")
  | some cntlid =>
    if !matchesWhole digits cntlid then
      Logged.fail ("controller " ++ controller ++ " has no valid cntlid " ++
        env.quote cntlid)
    else if (parseUintBase10 16 cntlid).all (0xFFEF < ·) then
      Logged.fail ("controller " ++ controller ++ " has out-of-range cntlid " ++
        env.quote cntlid)
    else pure cntlid

/-- `nvmeControllerID`. -/
def controllerID : Steps String := do
  let info ← (env.identifyController controller).mapError
    ("identifying controller " ++ controller ++ ": " ++ ·)
  env.controllerIDFromInfo controller info

/-- The namespaces that `listNamespaces` reads from an output. -/
def namespacesOf (out : Output) : Except String (List String) :=
  if trimSpace out.text = "" ∨ trimSpace out.text = "[]" then .ok []
  else out.nsids.map fun ids => (ids.filter fun id => 0 < id).map toString

/-- `listNamespaces` with `--all`. -/
def listNamespaces : Steps (List String) :=
  if !matchesWhole nvmeControllerPathRE controller then
    Logged.fail ("invalid NVMe controller path " ++ env.quote controller)
  else do
    match ← env.exec (.listNs controller) with
    | .error err => Logged.fail ("nvme list-ns " ++ controller ++ ": " ++ err.text)
    | .ok out =>
      match namespacesOf out with
      | .error err => Logged.fail ("parsing nvme list-ns JSON for " ++ controller ++ ": " ++ err)
      | .ok nsids => pure nsids

/-- The loop of `deleteAllNamespaces`. -/
def deleteNamespaces (controller : String) : List String → Steps Unit
  | [] => pure ()
  | nsid :: nsids => do
    match ← env.exec (.deleteNs controller nsid) with
    | .error err =>
      Logged.fail ("deleting namespace " ++ nsid ++ " on " ++ controller ++ ": " ++ err.trimmed)
    | .ok _ => deleteNamespaces controller nsids

/-- `deleteAllNamespaces`. -/
def deleteAllNamespaces : Steps Unit := do
  let nsids ← env.listNamespaces controller
  env.deleteNamespaces controller nsids

/-- The namespace ID in the output of `create-ns`. -/
def createdNsid (text : String) : Option String :=
  ((text.toList.splitOn '\n').filterMap fun line =>
    (line.tails.find? fun tail => "nsid:".toList.isPrefixOf tail).map fun tail =>
      trimSpace (String.ofList (tail.drop 5))).head?

/-- `CreateNVMeNamespace`. -/
def createNamespace (blocks : Nat) (blockSize : Int) : Steps String :=
  if !matchesWhole nvmeControllerPathRE controller then
    Logged.fail ("invalid NVMe controller path " ++ env.quote controller)
  else do
    match ← env.exec (.createNs controller blocks (if blockSize = 0 then 512 else blockSize)) with
    | .error err => Logged.fail ("nvme create-ns " ++ controller ++ ": " ++ err.whole)
    | .ok out =>
      match createdNsid out.text with
      | none => Logged.fail ("could not parse NSID from create-ns output: " ++ out.text)
      | some nsid => pure nsid

/-- `attachNVMeNamespace`. -/
def attachNamespace (controller nsid cntlid : String) : Steps Unit :=
  if !matchesWhole nvmeControllerPathRE controller then
    Logged.fail ("invalid NVMe controller path " ++ env.quote controller)
  else if !matchesWhole nsidRE nsid then
    Logged.fail ("invalid NVMe namespace ID " ++ env.quote nsid)
  else do
    match ← env.exec (.attachNs controller nsid cntlid) with
    | .error err =>
      Logged.fail ("nvme attach-ns " ++ controller ++ " -n " ++ nsid ++ ": " ++ err.whole)
    | .ok _ => pure ()

/-- A namespace of a layout. -/
structure Namespace where
  label : String
  sizePct : Int
  blockSize : Int

/-- `NVMeNamespaceConfig`. -/
structure NamespaceConfig where
  controller : String
  namespaces : List Namespace

/-- A conversion to `uint64`. -/
def toUint64 (n : Int) : Nat := (n % 2 ^ 64).toNat

/-- The body of the loop of `applyControllerLayout` over the namespaces. -/
def createLayout (totalBytes : Nat) (cntlid : String) (ns : Namespace) : Steps Unit :=
  let bs := if ns.blockSize = 0 then 512 else ns.blockSize
  let unit := 100 * toUint64 bs % 2 ^ 64
  let sizeBlocks := totalBytes * toUint64 ns.sizePct % 2 ^ 64 / unit
  -- a block size that makes the divisor wrap to zero panics
  if unit = 0 then Logged.fail "runtime error: integer divide by zero"
  else if sizeBlocks = 0 then
    Logged.fail ("controller " ++ controller ++ " namespace " ++ env.quote ns.label ++
      ": computed size is 0 blocks (device too small for sizePct=" ++ toString ns.sizePct ++
      "% with blockSize=" ++ toString bs ++ ")")
  else do
    let nsid ← env.createNamespace controller sizeBlocks bs
    env.attachNamespace controller nsid cntlid

/-- `applyControllerLayout`. -/
def applyControllerLayout (cfg : NamespaceConfig) : Steps Unit := do
  let supported ← (env.supportsMultiNS cfg.controller).mapError
    ("checking NVMe multi-namespace support: " ++ ·)
  if !supported then
    Logged.fail ("controller " ++ cfg.controller ++
      " does not support multiple namespaces; cannot apply requested layout")
  else do
    let totalBytes ← env.controllerCapacity cfg.controller
    let cntlid ← env.controllerID cfg.controller
    (env.deleteAllNamespaces cfg.controller).mapError
      ("reset namespaces on " ++ cfg.controller ++ ": " ++ ·)
    cfg.namespaces.forM (env.createLayout cfg.controller totalBytes cntlid)

/-- `ApplyNVMeNamespaceLayout`. -/
def applyNVMeNamespaceLayout (cfgs : List NamespaceConfig) : Steps Unit :=
  cfgs.forM env.applyControllerLayout

/-- `tryAttachFallbackNamespace`. -/
def tryAttachFallbackNamespace (sizeBlocks : Nat) (cntlid : String) : Steps Unit := do
  let capped : Nat := if 0 < sizeBlocks ∧ sizeBlocks < 2 ^ 21 then sizeBlocks else 2 ^ 21
  let blocks := if capped = 0 then 1 else capped
  match ← (env.createNamespace controller blocks 512).attempt with
  | .error (_ : String) => pure ()
  | .ok nsid => do
    let _ : Except String Unit ← (env.attachNamespace controller nsid cntlid).attempt
    pure ()

/-- The end of `NVMeResetNamespaces`. -/
def createDefault (sizeBlocks : Nat) (cntlid : String) : Steps Unit := do
  match ← (env.createNamespace controller sizeBlocks 512).attempt with
  | .error (err : String) => do
    env.tryAttachFallbackNamespace controller sizeBlocks cntlid
    Logged.fail ("creating default namespace: " ++ err)
  | .ok nsid =>
    (env.attachNamespace controller nsid cntlid).mapError ("attaching default namespace: " ++ ·)

/-- `NVMeResetNamespaces`. -/
def nvmeResetNamespaces : Steps Unit :=
  if !matchesWhole nvmeControllerPathRE controller then
    Logged.fail ("invalid NVMe controller path " ++ env.quote controller)
  else do
    let totalBytes ← (env.controllerCapacity controller).mapError
      ("reading controller capacity for reset: " ++ ·)
    let cntlid ← env.controllerID controller
    env.deleteAllNamespaces controller
    env.createDefault controller (totalBytes / 512) cntlid

/-- The operations that destroy data. -/
inductive Entry
  | wipeDisk (device : String)
  | wipeFilesystemSignatures (device : String)
  | wipeAllDisks
  | secureEraseDisk (device : String)
  | secureEraseAllDisks
  | discardNVMeDisks
  | applyNVMeNamespaceLayout (cfgs : List NamespaceConfig)
  | nvmeResetNamespaces (controller : String)

/-- The steps of an entry point. -/
def program : Entry → Steps Unit
  | .wipeDisk device => env.wipeDisk device
  | .wipeFilesystemSignatures device => env.wipeFilesystemSignatures device
  | .wipeAllDisks => env.wipeAllDisks
  | .secureEraseDisk device => env.secureEraseDisk device
  | .secureEraseAllDisks => env.secureEraseAllDisks
  | .discardNVMeDisks => env.discardNVMeDisks
  | .applyNVMeNamespaceLayout cfgs => env.applyNVMeNamespaceLayout cfgs
  | .nvmeResetNamespaces controller => env.nvmeResetNamespaces controller

/-- The journal of an operation. -/
def run (e : Entry) : List Event := (env.program e []).2

end Tools

end Booty.Disk
