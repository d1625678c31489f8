import Booty.Lib.SortBy
import Booty.Sriov.Firmware
import Booty.Sriov.Runtime

namespace Booty.Sriov

open Booty.Lib

/-!
# The reconcile

One run of the step `configure-sriov`: the discovery, the profile of every port, the firmware
settings port by port, the runtime pass, and what the findings mean for the run.

* `Reconciler.run` — a run; `Result` — its outcome.
-/

/-- A reconciler: the config, the backends in their order, and whether there is access to the
    runtime settings. -/
structure Reconciler where
  config : Config
  backends : List Backend
  hasRuntime : Bool
  text : MatchText

/-- The outcome of a run. -/
structure Result where
  findings : List Finding := []
  /-- Firmware settings were stored; they take effect after a reboot. -/
  reboot : Bool := false
  /-- Runtime settings wait for stored firmware settings. -/
  verifyReboot : Bool := false
  verifyDetail : String := ""

/-- The firmware settings that change what the runtime settings can do. -/
def runtimeAffecting : SettingName → Bool
  | .sriovEnabled | .maxVFs | .linkType => true
  | _ => false

/-- A firmware setting that was stored and takes effect only after a reset. -/
def needsReset (f : Finding) : Bool :=
  f.level == .firmware && f.status == .applied && f.detail != "active now"

/-- Remember the stored settings of a port that the runtime settings depend on. -/
def Pending.note (pending : Pending) (pf : PF) (findings : List Finding) : Pending :=
  (findings.filter fun f => needsReset f && runtimeAffecting f.setting).foldl
    (fun m f => m.set (adapterKey pf) (appendOnce (m.on pf) f.setting)) pending

/-- The state of the loop over the ports. -/
structure FirmwareState where
  findings : List Finding := []
  reboot : Bool := false
  pending : Pending := ∅
  journal : Journal := []

variable (r : Reconciler) (h : Host)

/-- The firmware settings of one port within a run. -/
def firmwareStep (r : Reconciler) (conflicts : GoMap String String)
    (s : FirmwareState) (a : Assignment) : Calls FirmwareState := do
  let p ← firmware h r.backends r.config conflicts a s.journal
  pure ⟨s.findings ++ p.findings, s.reboot || p.reboot, s.pending.note a.pf p.findings, p.journal⟩

/-- The firmware settings of all ports. -/
def firmwarePass (r : Reconciler) (as : List Assignment) (journal : Journal) :
    Calls FirmwareState :=
  as.foldlM (firmwareStep h r (adapterConflicts as)) { journal }

/-- The runtime settings of all ports. -/
def Reconciler.runtime (as : List Assignment) (pending : Pending) : Calls (List Finding) :=
  if r.hasRuntime then runtimePass h r.text r.config.uplinkVFDriverList as pending
  else pure (unverifiedFindings as)

/-- The adapters and settings that the verify reboot is for; nothing without a deferred setting. -/
def verifyDetail (runtime : List Finding) (pending : Pending) : Option String :=
  if runtime.any (·.status == .deferred) then
    let settings := (pending.keys.flatMap fun k => (pending.get k).getD []).foldl appendOnce []
    some ("adapters=" ++ ",".intercalate (sortBy id pending.keys) ++ " settings=" ++
      ",".intercalate (sortBy id (settings.map (·.text))))
  else none

/-- The drift action of each profile by name. -/
def actions (c : Config) : GoMap String DriftAction :=
  c.profiles.foldl (fun m p => m.set p.name (c.driftAction p)) ∅

/-- The error of a run with findings that the profiles do not tolerate. -/
def enforce (c : Config) (findings : List Finding) : Option String :=
  let failed := (findings.filter fun f =>
    !f.compliant && (actions c).get f.profile != some .warn).map Finding.text
  if failed = [] then none else some ("SR-IOV profiles not compliant: " ++ "; ".intercalate failed)

/-- What a run returns: the result, the error and the journal. -/
structure RunOutcome where
  result : Result := {}
  error : Option String := none
  journal : Journal

/-- The part of a run behind the discovery. -/
def Reconciler.reconcile (journal : Journal) (as : List Assignment)
    (matched : List Finding) : Calls RunOutcome := do
  let fw ← firmwarePass h r as journal
  let rt ← r.runtime h as fw.pending
  let detail := verifyDetail rt fw.pending
  let findings := matched ++ fw.findings ++ rt
  pure
    { result := ⟨findings, fw.reboot, detail.isSome, detail.getD ""⟩
      error := enforce r.config findings
      journal := fw.journal }

/-- One run, with the journal of the settings stored before it in this boot. -/
def Reconciler.run (journal : Journal) : Calls RunOutcome :=
  if r.config.profiles = [] then pure { journal }
  else do
    let pfs ← h.discover
    match pfs with
    | .error e => pure { error := some ("discover SR-IOV PF ports: " ++ e), journal }
    | .ok pfs =>
      match assign r.text r.config.profiles pfs with
      | .error e => pure { error := some ("SR-IOV profiles: " ++ e), journal }
      | .ok (as, matched) => r.reconcile h journal as matched

end Booty.Sriov
