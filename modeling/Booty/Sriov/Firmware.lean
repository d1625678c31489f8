import Booty.Sriov.Host

namespace Booty.Sriov

open Booty.Lib

/-!
# The firmware settings of a port

The settings of a profile as texts, what the backends say about them, the journal of the settings
stored in this boot, and the check and the store of the settings of one port.

* `settingNames`, `getSetting`, `changeFor` — settings by name.
* `readFirmware`, `checkFirmware`, `itemStatus` — the check.
* `JournalEntry`, `scopeKey`, `adapterConflicts` — what ports of one adapter share.
* `store`, `firmware` — the store.
-/

/-! ### Settings by name -/

/-- `strconv.FormatBool` of a set value. -/
def boolString : Option Bool → String
  | none => ""
  | some b => formatBool b

/-- `strconv.Itoa` of a set value. -/
def intString : Option Int → String
  | none => ""
  | some n => toString n

/-- The value of a setting, empty if there is none. -/
def settingValue (list : List Setting) (name : String) : String :=
  match list.find? (·.name == name) with
  | some s => s.value
  | none => ""

/-- The settings that `want` sets, in a fixed order. -/
def settingNames (want : FirmwareSettings) : List SettingName :=
  (if want.sriovEnabled.isSome then [.sriovEnabled] else []) ++
  (if want.maxVFs.isSome then [.maxVFs] else []) ++
  (if want.linkType ≠ "" then [.linkType] else []) ++
  (if want.fwLLDPAgent.isSome then [.fwLLDPAgent] else []) ++
  want.nvConfig.map (fun s => .nvConfig s.name) ++
  want.devlinkParams.map (fun s => .devlinkParam s.name)

/-- A setting as text; empty when it is not set. -/
def getSetting (f : FirmwareSettings) : SettingName → String
  | .sriovEnabled => boolString f.sriovEnabled
  | .maxVFs => intString f.maxVFs
  | .linkType => f.linkType
  | .fwLLDPAgent => boolString f.fwLLDPAgent
  | .nvConfig name => settingValue f.nvConfig name
  | .devlinkParam name => settingValue f.devlinkParams name
  | _ => ""

/-- The profile has a firmware setting. -/
def hasFirmwareSettings (f : FirmwareSettings) : Bool :=
  f.sriovEnabled.isSome || f.maxVFs.isSome || f.linkType != "" || f.fwLLDPAgent.isSome ||
    0 < f.nvConfig.length || 0 < f.devlinkParams.length

/-- The settings that set the drifted ones.  A VF limit sets SR-IOV on where the profile does not
    set it. -/
def changeFor (want : FirmwareSettings) (drifted : List SettingName) : FirmwareSettings where
  sriovEnabled :=
    if .maxVFs ∈ drifted ∧ want.sriovEnabled = none ∧ 0 < want.maxVFs.getD 0 then some true
    else if .sriovEnabled ∈ drifted then want.sriovEnabled
    else none
  maxVFs := if .maxVFs ∈ drifted then want.maxVFs else none
  linkType := if .linkType ∈ drifted then want.linkType else ""
  fwLLDPAgent := if .fwLLDPAgent ∈ drifted then want.fwLLDPAgent else none
  nvConfig := want.nvConfig.filter fun s => .nvConfig s.name ∈ drifted
  devlinkParams := want.devlinkParams.filter fun s => .devlinkParam s.name ∈ drifted

/-! ### The view of the backends -/

/-- The order of the tool classes: a class allows the ones below it. -/
def toolRank (tool : String) : Nat :=
  if tool = "kernel" then 0 else if tool = "opensource" then 1 else if tool = "vendor" then 2 else 3

/-- The NIC families without a backend, their drivers and their firmware tools. -/
def vendorTools : List (List String × String × String) :=
  [(["mlx5_core", "mlx4_core"], "NVIDIA ConnectX/BlueField",
      "mstconfig (mstflint, NIC_TOOLS=opensource) or mlxconfig (MFT, NIC_TOOLS=vendor)"),
   (["ice", "i40e", "ixgbe", "igb", "idpf"], "Intel",
      "the NVM: nvmupdate64e (vendor flavor) or the Redfish NIC attributes of the BMC"),
   (["bnxt_en"], "Broadcom NetXtreme-E",
      "niccli or bnxtnvm (vendor flavor) or the Redfish NIC attributes; devlink enable_sriov " ++
        "covers SR-IOV on/off"),
   (["qede", "qed"], "Marvell/QLogic FastLinQ",
      "the vendor NVM tool (QConvergeConsole CLI) or the Redfish NIC attributes"),
   (["cxgb4"], "Chelsio T5/T6", "the firmware configuration file and cxgbtool"),
   (["sfc", "sfc_ef100"], "AMD Solarflare", "sfboot (vendor flavor)"),
   (["ionic"], "AMD Pensando", "the vendor tooling of the DSC")]

/-- Why no backend handles a setting of a driver. -/
def noBackendReason (driver : String) (setting : SettingName) : String :=
  match vendorTools.find? (·.1.contains driver) with
  | some v => "no BOOTy backend for " ++ setting.text ++ " on " ++ driver ++ " (" ++ v.2.1 ++
      "): use " ++ v.2.2
  | none => "no firmware backend for driver " ++ quoted driver

/-- The answer of a backend for a port. -/
structure BackendRead where
  place : Nat
  backend : Backend
  answer : Except String FirmwareRead

/-- The stored value for a setting in the answer of a backend, and the active one. -/
def readValue (answer : Except String FirmwareRead) (name : SettingName) :
    Option (String × String) :=
  match answer with
  | .error _ => none
  | .ok r =>
    if r.unsupported.any (·.setting == name) then none
    else if getSetting r.values name = "" then none
    else some (getSetting r.values name, getSetting r.active name)

/-- Why a backend has no value for a setting. -/
def BackendRead.why (res : BackendRead) (name : SettingName) : String :=
  match res.answer with
  | .error e => res.backend.name ++ " read: " ++ e
  | .ok r =>
    match r.unsupported.find? (·.setting == name) with
    | some u => res.backend.name ++ ": " ++ u.reason
    | none => res.backend.name ++ ": no value"

/-- The reads of the backends of one port, and why the other backends were left out.  The source
    keeps the values of the settings of a profile in maps; here they are functions of the name. -/
structure FirmwareView where
  driver : String
  results : List BackendRead
  excluded : List String

namespace FirmwareView

variable (v : FirmwareView)

/-- The first backend with a value for the setting, its stored and its active value. -/
def found (name : SettingName) : Option (Nat × String × String) :=
  v.results.findSome? fun res => (readValue res.answer name).map fun p => (res.place, p)

/-- The backend that a setting belongs to. -/
def owner (name : SettingName) : Option Nat := (v.found name).map (·.1)

/-- The stored value. -/
def stored (name : SettingName) : String := ((v.found name).map (·.2.1)).getD ""

/-- The active value. -/
def active (name : SettingName) : String := ((v.found name).map (·.2.2)).getD ""

/-- Why no backend has a value. -/
def notes (name : SettingName) : String :=
  if (v.found name).isSome then ""
  else
    let why := v.results.map (·.why name) ++ v.excluded
    if why = [] then noBackendReason v.driver name else "; ".intercalate why

end FirmwareView
variable (h : Host) (backends : List Backend) (a : Assignment) (v : FirmwareView)

/-- The backends for a port, with their places, and why the others were left out. -/
def backendsFor (pf : PF) (tools : String) : List (Nat × Backend) × List String :=
  let handling := backends.zipIdx.filter fun p => p.1.supports pf
  let allowed := fun p : Backend × Nat => decide (toolRank p.1.tool ≤ toolRank tools)
  ((handling.filter allowed).map fun p => (p.2, p.1),
    (handling.filter fun p => !allowed p).map fun p =>
      "backend " ++ p.1.name ++ " needs NIC_TOOLS=" ++ p.1.tool ++ " (now " ++ tools ++ ")")

/-- Read with one backend. -/
def readBackend (pf : PF) (want : FirmwareSettings) (b : Nat × Backend) : Calls BackendRead := do
  let answer ← h.read b.1 pf want
  pure ⟨b.1, b.2, answer⟩

/-- Read the settings of `want` from the backends of the port. -/
def readFirmware (pf : PF) (want : FirmwareSettings) (tools : String) : Calls FirmwareView := do
  let results ← (backendsFor backends pf tools).1.mapM (readBackend h pf want)
  pure ⟨pf.driver, results, (backendsFor backends pf tools).2⟩

/-! ### What the ports of an adapter share -/

/-- The setting belongs to the whole adapter. -/
def adapterScoped : SettingName → Bool
  | .sriovEnabled | .maxVFs | .nvConfig _ => true
  | _ => false

/-- The adapter or the port that a setting belongs to. -/
def scopeKey (pf : PF) (setting : SettingName) : String :=
  if adapterScoped setting then "adapter " ++ adapterKey pf else "port " ++ portKey pf

/-- A setting that was stored in this boot. -/
structure JournalEntry where
  scope : String
  setting : SettingName
  value : String
deriving DecidableEq, Repr

/-- The settings stored in this boot. -/
abbrev Journal := List JournalEntry

/-- The value was stored for the setting in this boot. -/
def Journal.has (j : Journal) (scope : String) (setting : SettingName) (value : String) : Bool :=
  j.any fun e => e.scope == scope && e.setting == setting && e.value == value

/-- Remember a stored setting in place of an earlier value. -/
def Journal.add (j : Journal) (scope : String) (setting : SettingName) (value : String) : Journal :=
  j.filter (fun e => e.scope != scope || e.setting != setting) ++ [⟨scope, setting, value⟩]

/-- A wanted value of a setting, with the profile that wants it. -/
structure Wanted where
  profile : String
  value : String

/-- The key of a setting among the conflicts. -/
def conflictKey (pf : PF) (name : SettingName) : String := scopeKey pf name ++ "|" ++ name.text

/-- The values seen so far, and the conflicts. -/
structure Conflicts where
  seen : GoMap String Wanted := ∅
  out : GoMap String String := ∅

/-- What is wrong with a value that differs from the one seen before. -/
def conflictText (name : SettingName) (prev : Wanted) : String :=
  "ports of " ++ adapterKey a.pf ++ " want " ++ name.text ++ "=" ++ prev.value ++ " (profile " ++
    prev.profile ++ ") and " ++ getSetting a.firmware name ++ " (profile " ++ a.profile.name ++
    "); the setting belongs to the whole adapter"

/-- Compare one wanted setting with the values seen before. -/
def Conflicts.add (c : Conflicts) (a : Assignment) (name : SettingName) : Conflicts :=
  let key := conflictKey a.pf name
  let v := getSetting a.firmware name
  match c.seen.get key with
  | none => { c with seen := c.seen.set key ⟨a.profile.name, v⟩ }
  | some prev =>
    if prev.value = v then c else { c with out := c.out.set key (conflictText a name prev) }

/-- The settings of whole adapters that ports want with different values. -/
def adapterConflicts (as : List Assignment) : GoMap String String :=
  (as.foldl (fun c a => ((settingNames a.firmware).filter adapterScoped).foldl (·.add a) c)
    ({} : Conflicts)).out

/-! ### The check -/

/-- A setting of a profile: the wanted, the stored and the active value, empty when unknown. -/
structure FirmwareItem where
  setting : SettingName
  want : String
  stored : String
  active : String

/-- The value that the kernel shows for a setting, empty when it shows none. -/
def kernelActive (pf : PF) : SettingName → String
  | .sriovEnabled => boolString (some pf.sriovCapable)
  | .maxVFs => toString pf.totalVFs
  | .linkType => pf.linkType
  | _ => ""

/-- The item of one setting. -/
def firmwareItem (want : FirmwareSettings) (pf : PF) (v : FirmwareView) (name : SettingName) :
    FirmwareItem where
  setting := name
  want := getSetting want name
  stored := v.stored name
  active := if kernelActive pf name = "" then v.active name else kernelActive pf name

/-- What is said of a stored value that is not active. -/
def resetPending : String :=
  "the stored value is not active: a firmware reset or power cycle is pending, or the BIOS " ++
    "blocks it"

/-- The status of a setting from the wanted, stored and active values; `storedThisBoot` says that
    the journal has the wanted value. -/
def itemStatus (it : FirmwareItem) (storedThisBoot : Bool) (note : String) : Status × String :=
  if it.stored ≠ "" ∧ it.stored ≠ it.want then (.drift, "")
  else if it.active ≠ "" ∧ it.active ≠ it.want ∧ it.stored = it.want ∧ storedThisBoot then
    (.applied, "stored in this boot; takes effect after the reboot")
  else if it.active ≠ "" ∧ it.active ≠ it.want ∧ it.stored = it.want then
    (.pendingReset, resetPending)
  else if it.active ≠ "" ∧ it.active ≠ it.want then (.drift, note)
  else if it.stored = "" ∧ it.active = "" then (.unverified, note)
  else (.ok, "")

/-- What is reported as found. -/
def gotString (it : FirmwareItem) : String :=
  let parts := (if it.stored = "" then [] else ["stored=" ++ it.stored]) ++
    (if it.active = "" then [] else ["active=" ++ it.active])
  if parts = [] then "unknown" else " ".intercalate parts

/-- Compare one setting of a port with the stored and the active value. -/
def checkItem (conflicts : GoMap String String)
    (journal : Journal) (name : SettingName) : Finding :=
  let it := firmwareItem a.firmware a.pf v name
  let verdict := match (conflicts.get (conflictKey a.pf name)).getD "" with
    | "" => itemStatus it (journal.has (scopeKey a.pf name) name it.want) (v.notes name)
    | c => (.failed, c)
  { a.finding .firmware name verdict.1 verdict.2 with want := it.want, got := gotString it }

/-- Compare the firmware settings of a port with the stored and the active values. -/
def checkFirmware (conflicts : GoMap String String) (journal : Journal) : List Finding :=
  (settingNames a.firmware).map (checkItem a v conflicts journal)

/-! ### The store -/

/-- What became of a setting after a store: `after` is the read that follows it. -/
def storeResult (backend : String) (want : FirmwareSettings) (needReboot : Bool)
    (after : Except String FirmwareRead) (name : SettingName) : Status × String :=
  match after with
  | .error e => (.failed, backend ++ " read back: " ++ e)
  | .ok r =>
    if getSetting r.values name ≠ getSetting want name then
      (.failed, backend ++ " set did not persist: stored " ++ quoted (getSetting r.values name) ++
        " after the set")
    else (.applied, if needReboot then "takes effect after the reboot" else "active now")

/-- The outcome of a store: the new statuses, the reboot flag and the journal. -/
structure Stored where
  results : List (SettingName × Status × String)
  reboot : Bool
  journal : Journal

/-- The outcome of a store that the backend accepted. -/
def Stored.of (backend : String) (a : Assignment) (drifted : List SettingName) (needReboot : Bool)
    (after : Except String FirmwareRead) (journal : Journal) : Stored :=
  let result := storeResult backend a.firmware needReboot after
  let stored := drifted.filter fun name => needReboot && (result name).1 == .applied
  { results := drifted.map fun name => (name, result name)
    reboot := stored ≠ []
    journal := stored.foldl
      (fun j name => j.add (scopeKey a.pf name) name (getSetting a.firmware name)) journal }

/-- Apply the drifted settings of one backend, read them back, and remember the ones that the NIC
    kept. -/
def store (b : Nat) (backend : String) (a : Assignment) (drifted : List SettingName)
    (journal : Journal) : Calls Stored := do
  let answer ← h.apply b a.pf (changeFor a.firmware drifted)
  match answer with
  | .error e =>
    pure ⟨drifted.map fun name => (name, .failed, backend ++ " apply: " ++ e), false, journal⟩
  | .ok needReboot => do
    let after ← h.read b a.pf a.firmware
    pure (Stored.of backend a drifted needReboot after journal)

/-- Put the results of a store into the findings. -/
def withResults (results : List (SettingName × Status × String)) (f : Finding) : Finding :=
  match results.lookup f.setting with
  | some r => { f with status := r.1, detail := r.2 }
  | none => f

/-- The findings of a port so far, the reboot flag and the journal. -/
structure Progress where
  findings : List Finding
  reboot : Bool
  journal : Journal

/-- Store the settings that belong to one backend. -/
def storeOwned (byOwner : Nat → List SettingName) (p : Progress) (b : Nat) : Calls Progress := do
  let name := ((backends[b]?).map (·.name)).getD ""
  let s ← store h b name a (byOwner b) p.journal
  pure ⟨p.findings.map (withResults s.results), p.reboot || s.reboot, s.journal⟩

/-- A list with a value at its end, unless it is there already. -/
def appendOnce {α : Type} [DecidableEq α] (l : List α) (a : α) : List α :=
  if a ∈ l then l else l ++ [a]

/-- A drifted setting without a backend cannot be applied. -/
def markUnowned (f : Finding) : Finding :=
  if f.status = .drift ∧ (v.owner f.setting).isNone then
    { f with status := .failed, detail := "cannot apply: " ++ v.notes f.setting }
  else f

/-- The drifted settings that a backend can apply. -/
def driftedSettings (findings : List Finding) (v : FirmwareView) : List SettingName :=
  ((findings.filter (·.status = .drift)).map (·.setting)).filter fun name => (v.owner name).isSome

/-- Store the drifted settings, each with the backend that read it. -/
def storeDrifted (findings : List Finding) (journal : Journal) : Calls Progress :=
  let drifted := driftedSettings findings v
  ((drifted.filterMap v.owner).foldl appendOnce []).foldlM
    (storeOwned h backends a fun b => drifted.filter fun name => v.owner name = some b)
    ⟨findings.map (markUnowned v), findings.any (·.status == .applied), journal⟩

/-- Read, check and, with the drift action apply, store the firmware settings of one port. -/
def firmware (c : Config) (conflicts : GoMap String String)
    (a : Assignment) (journal : Journal) : Calls Progress :=
  if !hasFirmwareSettings a.firmware then pure ⟨[], false, journal⟩
  else do
    let v ← readFirmware h backends a.pf a.firmware c.tools
    let findings := checkFirmware a v conflicts journal
    if c.driftAction a.profile ≠ .apply then
      pure ⟨findings, findings.any (·.status == .applied), journal⟩
    else storeDrifted h backends a v findings journal

end Booty.Sriov
