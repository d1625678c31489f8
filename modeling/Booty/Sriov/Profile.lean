import Booty.Lib.GoMap
import Booty.Lib.GoString
import Booty.Lib.Text

namespace Booty.Sriov

open Booty.Lib

/-!
# SR-IOV profiles and ports

The PF ports of a host, the profiles that say what they should be, the findings of a check, and
which profile belongs to which port.

* `PF`, `Profile`, `Config` — the data.
* `SettingName`, `Finding` — what a finding is about, and what it says.
* `assign` — the profile of every port.
-/

/-! ### Ports -/

/-- A virtual function, as rtnetlink reports it. -/
structure VF where
  index : Int := 0
  mac : String := ""
  vlan : Int := 0
  qos : Int := 0
  minTxRate : Nat := 0
  maxTxRate : Nat := 0
  spoofChk : Bool := false
  trust : Bool := false
  linkState : String := ""
deriving DecidableEq, Repr

/-- The report of one physical function port. -/
structure PF where
  interface : String
  mac : String := ""
  bus : String
  pciAddress : String
  vendorID : String := ""
  deviceID : String := ""
  driver : String
  linkType : String := ""
  sriovCapable : Bool := false
  totalVFs : Int := 0
  numVFs : Int := 0
  /-- `Eswitch.Mode`. -/
  eswitchMode : String := ""
  physPortName : String := ""
  vfs : List VF := []
deriving DecidableEq, Repr

/-- The devlink handle of the device: its ports share `sriov_numvfs` and the eSwitch. -/
def PF.handle (pf : PF) : String := pf.bus ++ "/" ++ pf.pciAddress

/-- The text before the last dot, unless nothing stands before it. -/
def beforeLastDot (s : String) : Option String :=
  match s.toList.reverse.dropWhile (· ≠ '.') with
  | [] | [_] => none
  | _ :: front => some (String.ofList front.reverse)

/-- The PF ports of one adapter: the PCI functions of a slot, or the ports of another device. -/
def adapterKey (pf : PF) : String :=
  if pf.bus = "pci" then (beforeLastDot pf.pciAddress).getD pf.handle else pf.handle

/-- A PF port by bus, PCI address and port: `phys_port_name`, else the MAC. -/
def portKey (pf : PF) : String :=
  let port := if pf.physPortName = "" then pf.mac else pf.physPortName
  pf.bus ++ "/" ++ pf.pciAddress ++ "/" ++ port

/-! ### Profiles -/

/-- The drift actions. -/
inductive DriftAction
  | warn
  | fail
  | apply
deriving DecidableEq, Repr

/-- The handoff modes of the runtime settings. -/
inductive Handoff
  | reset
  | keep
deriving DecidableEq, Repr

/-- Which ports a profile is for; every set field must match. -/
structure Match where
  vendorID : String := ""
  deviceID : String := ""
  driver : String := ""
  mac : String := ""
  interface : String := ""
deriving DecidableEq, Repr

/-- One named firmware parameter. -/
structure Setting where
  name : String
  value : String
deriving DecidableEq, Repr

/-- Persistent settings of a NIC. -/
structure FirmwareSettings where
  sriovEnabled : Option Bool := none
  maxVFs : Option Int := none
  linkType : String := ""
  fwLLDPAgent : Option Bool := none
  nvConfig : List Setting := []
  devlinkParams : List Setting := []
deriving DecidableEq, Repr

/-- The attributes of a VF; unset ones stay as the driver sets them. -/
structure VFSettings where
  trust : Option Bool := none
  spoofChk : Option Bool := none
  vlan : Option Int := none
  qos : Option Int := none
  minTxRate : Option Int := none
  maxTxRate : Option Int := none
  linkState : String := ""
deriving DecidableEq, Repr

/-- The attributes of one VF. -/
structure VFOverride extends VFSettings where
  index : Int
  mac : String := ""
deriving DecidableEq, Repr

/-- Kernel settings, which last until the next reboot. -/
structure RuntimeSettings where
  numVFs : Option Int := none
  eswitchMode : String := ""
  vfDefaults : VFSettings := {}
  vfs : List VFOverride := []
  handoff : Option Handoff := none
deriving DecidableEq, Repr

/-- The desired state of the ports that a profile matches. -/
structure Profile where
  name : String
  portMatch : Match
  firmware : FirmwareSettings := {}
  runtime : RuntimeSettings := {}
  onDrift : Option DriftAction := none
  optional : Bool := false
deriving DecidableEq, Repr

/-- The SR-IOV part of the machine config. -/
structure Config where
  profiles : List Profile
  onDrift : Option DriftAction := none
  nicTools : String := ""
  uplinkVFDrivers : List String := []

namespace Config

/-- The drift action of a profile. -/
def driftAction (c : Config) (p : Profile) : DriftAction :=
  match p.onDrift, c.onDrift with
  | some a, _ => a
  | none, some a => a
  | none, none => .warn

/-- The allowed tool class. -/
def tools (c : Config) : String := if c.nicTools = "" then "opensource" else c.nicTools

end Config

/-- The drivers that create and remove VFs without a reset of the PF. -/
def defaultUplinkVFDrivers : List String := ["mlx5_core", "ice"]

/-- The drivers that may change the VF count of a port in use. -/
def Config.uplinkVFDriverList (c : Config) : List String :=
  if 0 < c.uplinkVFDrivers.length then c.uplinkVFDrivers else defaultUplinkVFDrivers

/-! ### Findings -/

/-- The settings that a finding can be about. -/
inductive SettingName
  | pfPorts
  | sriovEnabled
  | maxVFs
  | linkType
  | fwLLDPAgent
  | nvConfig (name : String)
  | devlinkParam (name : String)
  | runtime
  | numVFs
  | eswitchMode
  | vf (index : Nat)
  | handoff
deriving DecidableEq, Repr

/-- The name of a setting. -/
def SettingName.text : SettingName → String
  | pfPorts => "pfPorts"
  | sriovEnabled => "sriovEnabled"
  | maxVFs => "maxVFs"
  | linkType => "linkType"
  | fwLLDPAgent => "fwLLDPAgent"
  | nvConfig name => "nvConfig." ++ name
  | devlinkParam name => "devlinkParams." ++ name
  | runtime => "runtime"
  | numVFs => "numVFs"
  | eswitchMode => "eswitchMode"
  | vf index => "vfs[" ++ toString index ++ "]"
  | handoff => "handoff"

/-- The states of a setting. -/
inductive Status
  | ok
  | drift
  | pendingReset
  | unverified
  | applied
  | failed
  | refusedInUse
  | deferred
deriving DecidableEq, Repr

/-- The name of a state. -/
def Status.text : Status → String
  | ok => "ok"
  | drift => "drift"
  | pendingReset => "pending-reset"
  | unverified => "unverified"
  | applied => "applied"
  | failed => "failed"
  | refusedInUse => "refused-in-use"
  | deferred => "deferred"

/-- What a finding is about. -/
inductive Level
  | portMatch
  | firmware
  | runtime
deriving DecidableEq, Repr

/-- The name of a level. -/
def Level.text : Level → String
  | portMatch => "match"
  | firmware => "firmware"
  | runtime => "runtime"

/-- The result for one setting of a profile on one port. -/
structure Finding where
  profile : String
  interface : String := ""
  level : Level
  setting : SettingName
  want : String := ""
  got : String := ""
  status : Status
  detail : String := ""
deriving DecidableEq, Repr

namespace Finding

/-- The finding meets the profile, now or after the reboot that follows. -/
def compliant (f : Finding) : Bool :=
  f.status == .ok || f.status == .applied || f.status == .deferred

/-- The finding in logs and errors. -/
def text (f : Finding) : String :=
  f.profile ++ "/" ++ f.interface ++ " " ++ f.level.text ++ "." ++ f.setting.text ++ ": " ++
    f.status.text ++
    (if f.want ≠ "" ∨ f.got ≠ "" then " (want " ++ f.want ++ ", got " ++ f.got ++ ")" else "") ++
    (if f.detail ≠ "" then ": " ++ f.detail else "")

end Finding

/-! ### The profile of a port -/

/-- Functions of the standard library on the texts of a match: `net.ParseMAC` followed by
    `HardwareAddr.String`, `path.Match` (without a value for a bad pattern), and the case folding of
    `strings.EqualFold`. -/
structure MatchText where
  parseMAC : String → Option String
  pathMatch : String → String → Option Bool
  unicode : Unicode

/-- The usual spelling of an address; a text that is none stays. -/
def normalizeMAC (x : MatchText) (s : String) : String := (x.parseMAC s).getD s

/-- The port matches. -/
def Match.matches (x : MatchText) (m : Match) (pf : PF) : Bool :=
  (m.vendorID == "" || m.vendorID == pf.vendorID) &&
  (m.deviceID == "" || m.deviceID == pf.deviceID) &&
  (m.driver == "" || m.driver == pf.driver) &&
  (m.mac == "" || equalFold x.unicode (normalizeMAC x m.mac) pf.mac) &&
  (m.interface == "" || x.pathMatch m.interface pf.interface == some true)

/-- A port and the profile that matches it. -/
structure Assignment where
  profile : Profile
  pf : PF
deriving DecidableEq, Repr

namespace Assignment

/-- The firmware settings that the port should have. -/
def firmware (a : Assignment) : FirmwareSettings := a.profile.firmware

/-- The runtime settings that the port should have. -/
def runtime (a : Assignment) : RuntimeSettings := a.profile.runtime

/-- A finding about a setting of the assignment. -/
def finding (a : Assignment) (level : Level) (setting : SettingName) (status : Status)
    (detail : String) : Finding :=
  { profile := a.profile.name, interface := a.pf.interface, level, setting, status, detail }

end Assignment
variable (x : MatchText) (profiles : List Profile) (pfs : List PF)

/-- The profiles that match a port. -/
def matchesOf (pf : PF) : List Profile :=
  profiles.filter (·.portMatch.matches x pf)

/-- The finding on how many ports a profile matches. -/
def matchFinding (p : Profile) : Finding :=
  let count := (pfs.filter (p.portMatch.matches x)).length
  let f : Finding :=
    { profile := p.name, level := .portMatch, setting := .pfPorts, want := ">= 1"
      got := toString count, status := .ok }
  if count ≠ 0 then f
  else if p.optional then { f with detail := "optional profile without a PF port" }
  else { f with status := .drift, detail := "no PF port matches the profile" }

/-- The error of a port that several profiles match. -/
def ambiguous (pf : PF) : Option String :=
  let names := (matchesOf x profiles pf).map (·.name)
  if 1 < names.length then
    some ("PF port " ++ pf.interface ++ " matches the SR-IOV profiles " ++ ", ".intercalate names)
  else none

/-- The profile of every port that one matches, and how many ports each profile has; a port that
    two profiles match is an error. -/
def assign : Except String (List Assignment × List Finding) :=
  let errs := pfs.filterMap (ambiguous x profiles)
  if 0 < errs.length then .error ("; ".intercalate errs)
  else
    .ok (pfs.filterMap (fun pf => (matchesOf x profiles pf).head?.map fun p => ⟨p, pf⟩),
      profiles.map (matchFinding x pfs))

end Booty.Sriov
