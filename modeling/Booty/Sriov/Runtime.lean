import Booty.Sriov.Host

namespace Booty.Sriov

open Booty.Lib List

/-!
# The runtime pass

The VF counts, eSwitch modes and VF attributes of the profiles: what is applied to each device,
what the guard for the ramdisk network refuses, the check afterwards and the reset before the
handoff.

* `runtimeDevices`, `deferDevices` — the devices of the pass.
* `applyDevice`, `guardInUse` — the changes to a device.
* `verifyRuntime`, `handoff`, `runtimePass` — the check, the reset, and the pass as a whole.
* `runtimePass_asks` — the pass only discovers and changes the runtime state, and its findings are
  about that.
-/

/-- A device with runtime settings: the first port that has some, and the other ports that want the
    same.  Its settings and its state before the pass are those of the first port. -/
structure RuntimeDevice where
  lead : Assignment
  others : List Assignment := []
  /-- `sriov_numvfs` now. -/
  cur : Int := 0
  /-- The VF count or the eSwitch changed. -/
  changed : Bool := false
  eswitchSet : Bool := false
  /-- Why a setting could not be applied. -/
  errs : GoMap SettingName String := ∅
  /-- Why the guard refused a setting. -/
  refused : GoMap SettingName String := ∅

namespace RuntimeDevice

variable (d : RuntimeDevice)

/-- The first port. -/
def pf : PF := d.lead.pf

/-- The handle of the device. -/
def handle : String := d.pf.handle

/-- All ports of the device. -/
def assignments : List Assignment := d.lead :: d.others

/-- The wanted number of VFs. -/
def numVFs : Option Int := d.lead.runtime.numVFs

/-- The wanted eSwitch mode. -/
def eswitch : String := d.lead.runtime.eswitchMode

/-- The number of VFs at first. -/
def origNumVFs : Int := d.pf.numVFs

/-- The eSwitch mode at first. -/
def origEswitch : String := d.pf.eswitchMode

/-- The profile keeps the device as it is at the handoff. -/
def keep : Bool := d.lead.runtime.handoff == some .keep

end RuntimeDevice

/-- The profile has a runtime setting. -/
def hasRuntimeSettings (rt : RuntimeSettings) : Bool := rt.numVFs.isSome || rt.eswitchMode != ""

/-! ### The devices of the pass -/

/-- Sort an assignment to its device; a port that wants other settings than the first one of its
    device is a conflict. -/
def addAssignment (acc : List RuntimeDevice × List Finding) (a : Assignment) :
    List RuntimeDevice × List Finding :=
  if !hasRuntimeSettings a.runtime then acc
  else
    match acc.1.find? (·.handle == a.pf.handle) with
    | none => (acc.1 ++ [{ lead := a }], acc.2)
    | some d =>
      if d.numVFs ≠ a.runtime.numVFs ∨ d.eswitch ≠ a.runtime.eswitchMode then
        (acc.1, acc.2 ++ [a.finding .runtime .numVFs .failed
          ("port " ++ d.pf.interface ++ " of device " ++ a.pf.handle ++
            " wants other runtime settings")])
      else
        (acc.1.map fun e =>
          if e.handle == a.pf.handle then { e with others := e.others ++ [a] } else e, acc.2)

/-- The assignments with runtime settings by device, and the conflicts. -/
def runtimeDevices (as : List Assignment) : List RuntimeDevice × List Finding :=
  as.foldl addAssignment ([], [])

/-- The stored firmware settings of each adapter that the runtime settings wait for. -/
abbrev Pending := GoMap String (List SettingName)

/-- The stored settings that a device waits for. -/
def Pending.on (pending : Pending) (pf : PF) : List SettingName :=
  (pending.get (adapterKey pf)).getD []

/-- The findings of a device that waits for a reboot. -/
def deferredFindings (settings : List SettingName) (d : RuntimeDevice) : List Finding :=
  d.assignments.map fun a => a.finding .runtime .runtime .deferred
    ("stored firmware change of " ++ ", ".intercalate (settings.map (·.text)) ++
      " takes effect after the reboot; BOOTy boots the ramdisk again to check the runtime settings")

/-- The devices of the pass, and the findings of those that wait. -/
def deferDevices (devs : List RuntimeDevice) (pending : Pending) :
    List RuntimeDevice × List Finding :=
  (devs.filter fun d => pending.on d.pf = [],
    (devs.filter fun d => pending.on d.pf ≠ []).flatMap fun d =>
      deferredFindings (pending.on d.pf) d)

/-! ### The guard -/

namespace RuntimeDevice

variable (d : RuntimeDevice)

/-- The eSwitch mode should change. -/
def eswitchChange : Bool := d.eswitch != "" && d.eswitch != d.origEswitch

/-- The number of VFs should change. -/
def countChange : Bool := d.numVFs.any (· != d.cur)

/-- The device with a refused setting. -/
def refuse (setting : SettingName) (reason : String) : RuntimeDevice :=
  { d with refused := d.refused.set setting reason }

/-- The setting was refused. -/
def isRefused (setting : SettingName) : Bool := (d.refused.get setting).isSome

end RuntimeDevice
variable (h : Host) (d : RuntimeDevice)

/-- Refuse the change of the VF count of a port in use, on a driver that resets the PF for it and
    on a bonded uplink of mlx5. -/
def guardCount (drivers : List String) (reason : String) (d : RuntimeDevice) : RuntimeDevice :=
  if d.countChange && !drivers.contains d.pf.driver then
    d.refuse .numVFs ("driver " ++ d.pf.driver ++
      " resets the PF for a VF count change, which would disrupt the ramdisk network: " ++ reason)
  else if d.countChange && d.pf.driver == "mlx5_core" && h.master d.pf != "" then
    d.refuse .numVFs ("mlx5 toggles the hardware LAG of the bonded uplink (master " ++
      h.master d.pf ++ ") for a VF count change, which would disrupt the ramdisk network: " ++
      reason)
  else d

/-- Refuse every eSwitch change of a port in use. -/
def guardEswitch (reason : String) (d : RuntimeDevice) : RuntimeDevice :=
  if d.eswitchChange then
    d.refuse .eswitchMode ("the eSwitch change would disrupt the ramdisk network: " ++ reason)
  else d

/-- Refuse the changes that would disrupt the ramdisk network.  Only the first port of the device
    is asked for. -/
def guardInUse (drivers : List String) (d : RuntimeDevice) : RuntimeDevice :=
  if !d.eswitchChange && !d.countChange then d
  else
    match h.inUse d.pf with
    | none => d
    | some reason => guardCount h drivers reason (guardEswitch reason d)

/-! ### The changes -/

/-- What became of a write of `sriov_numvfs`. -/
def RuntimeDevice.counted (n : Int) : Option String → Bool × RuntimeDevice
  | some e =>
    (false, { d with errs := d.errs.set .numVFs ("sriov_numvfs " ++ toString n ++ ": " ++ e) })
  | none => (true, { d with cur := n, changed := true })

/-- Write `sriov_numvfs` and keep a failure. -/
def setVFs (n : Int) : Calls (Bool × RuntimeDevice) := do
  let err ← h.setNumVFs d.pf n
  pure (d.counted n err)

/-- What became of an eSwitch change. -/
def RuntimeDevice.switched : Option String → RuntimeDevice
  | some e =>
    { d with errs := d.errs.set .eswitchMode ("devlink eswitch " ++ d.eswitch ++ ": " ++ e) }
  | none => { d with changed := true, eswitchSet := true }

/-- Set the eSwitch mode and keep a failure. -/
def switchEswitch : Calls RuntimeDevice := do
  let err ← h.setEswitch d.pf d.eswitch
  pure (d.switched err)

/-- Change the eSwitch mode with the VFs off. -/
def applyEswitch : Calls RuntimeDevice :=
  if !d.eswitchChange then pure d
  else if d.cur = 0 then switchEswitch h d
  else do
    let off ← setVFs h d 0
    if off.1 then switchEswitch h off.2 else pure off.2

/-- Change the VF count, through 0 when there are VFs. -/
def applyCount (n : Int) : Calls RuntimeDevice :=
  if n = d.cur then pure d
  else if d.cur = 0 ∨ n = 0 then do
    let on ← setVFs h d n
    pure on.2
  else do
    let off ← setVFs h d 0
    if off.1 then do
      let on ← setVFs h off.2 n
      pure on.2
    else pure off.2

/-- The VF defaults with the set fields of an override. -/
def mergeVF (dst src : VFSettings) : VFSettings where
  trust := src.trust.or dst.trust
  spoofChk := src.spoofChk.or dst.spoofChk
  vlan := src.vlan.or dst.vlan
  qos := src.qos.or dst.qos
  minTxRate := src.minTxRate.or dst.minTxRate
  maxTxRate := src.maxTxRate.or dst.maxTxRate
  linkState := if src.linkState = "" then dst.linkState else src.linkState

/-- The attributes and the MAC of VF `i`. -/
def effectiveVF (rt : RuntimeSettings) (i : Nat) : VFSettings × String :=
  match rt.vfs.find? (·.index == (i : Int)) with
  | some o => (mergeVF rt.vfDefaults o.toVFSettings, o.mac)
  | none => (rt.vfDefaults, "")

/-- The VF has no attribute to set. -/
def plainVF (rt : RuntimeSettings) (i : Nat) : Bool := effectiveVF rt i == ({}, "")

/-- The VFs of a port with `n` of them that have attributes to set. -/
def configuredVFs (rt : RuntimeSettings) (n : Int) : List Nat :=
  (List.range n.toNat).filter fun i => !plainVF rt i

/-- Set the attributes of one VF of a port and keep a failure. -/
def applyVF (slot : Assignment × Nat) : Calls RuntimeDevice := do
  let vf := effectiveVF slot.1.runtime slot.2
  let err ← h.setVF slot.1.pf slot.2 vf.1 vf.2
  match err with
  | some e =>
    pure { d with errs := d.errs.set (.vf slot.2) ("VF " ++ toString slot.2 ++ ": " ++ e) }
  | none => pure d

/-- Set the attributes of the VFs of every port. -/
def applyVFs (n : Int) : Calls RuntimeDevice :=
  (d.assignments.flatMap fun a => (configuredVFs a.runtime n).map fun i => (a, i)).foldlM
    (applyVF h) d

/-- The VF count and the attributes of the VFs. -/
def applyNumVFs : Calls RuntimeDevice :=
  match d.numVFs with
  | none => pure d
  | some n =>
    if d.isRefused .numVFs then pure d
    else do
      let d ← applyCount h d n
      if (d.errs.get .numVFs).isSome then pure d else applyVFs h d n

/-- Bring a device to its runtime settings: the VFs off before an eSwitch change or a change of
    their count, then the eSwitch mode, the count and the attributes. -/
def applyDevice (drivers : List String) (d : RuntimeDevice) : Calls RuntimeDevice :=
  let g := guardInUse h drivers { d with cur := d.origNumVFs }
  (if g.isRefused .eswitchMode then pure g else applyEswitch h g) >>= applyNumVFs h

/-! ### The check -/

/-- The wanted attributes of a VF and the ones it has. -/
def vfCompare (x : MatchText) (s : VFSettings) (mac : String) (vf : Option VF) : String × String :=
  let vf := vf.getD { linkState := "missing" }
  let attributes : List (String × Option (String × String)) :=
    [("mac", if mac = "" then none else some (normalizeMAC x mac, vf.mac)),
     ("trust", s.trust.map fun b => (formatBool b, formatBool vf.trust)),
     ("spoofChk", s.spoofChk.map fun b => (formatBool b, formatBool vf.spoofChk)),
     ("vlan", s.vlan.map fun n => (toString n, toString vf.vlan)),
     ("qos", s.qos.map fun n => (toString n, toString vf.qos)),
     ("minTxRate", s.minTxRate.map fun n => (toString n, toString vf.minTxRate)),
     ("maxTxRate", s.maxTxRate.map fun n => (toString n, toString vf.maxTxRate)),
     ("linkState", if s.linkState = "" then none else some (s.linkState, vf.linkState))]
  let wanted := attributes.filterMap fun p =>
    p.2.map fun v => (p.1 ++ "=" ++ v.1, p.1 ++ "=" ++ v.2)
  (" ".intercalate (wanted.map (·.1)), " ".intercalate (wanted.map (·.2)))

/-- Why the guard refused a setting; a VF is refused with the VF count. -/
def RuntimeDevice.refusal (setting : SettingName) : Option String :=
  match d.refused.get setting, setting with
  | some reason, _ => some reason
  | none, .vf _ => d.refused.get .numVFs
  | none, _ => none

/-- The finding for a runtime setting. -/
def runtimeFinding (a : Assignment) (d : RuntimeDevice) (setting : SettingName)
    (want got : String) : Finding :=
  let f := { a.finding .runtime setting (if want = got then .ok else .failed) "" with want, got }
  let f := match d.errs.get setting with
    | some e => { f with status := .failed, detail := e }
    | none => f
  match d.refusal setting with
  | some reason =>
    if f.status = .ok then f else { f with status := .refusedInUse, detail := reason }
  | none => f

/-- Compare the port after the changes with its profile. -/
def verifyRuntime (x : MatchText) (a : Assignment) (now : PF) (d : RuntimeDevice) : List Finding :=
  (if a.runtime.eswitchMode = "" then []
    else [runtimeFinding a d .eswitchMode a.runtime.eswitchMode now.eswitchMode]) ++
  match a.runtime.numVFs with
  | none => []
  | some n =>
    runtimeFinding a d .numVFs (toString n) (toString now.numVFs) ::
      (configuredVFs a.runtime n).map fun i =>
        let vf := effectiveVF a.runtime i
        let texts := vfCompare x vf.1 vf.2 (now.vfs.find? (·.index == (i : Int)))
        runtimeFinding a d (.vf i) texts.1 texts.2

/-- The ports that a discovery reports, by port key; a failed one reports none. -/
def byPort : Except String (List PF) → GoMap String PF
  | .error _ => ∅
  | .ok pfs => pfs.foldl (fun m pf => m.set (portKey pf) pf) ∅

/-- The findings for one port of a device. -/
def verifyPort (x : MatchText) (now : GoMap String PF) (d : RuntimeDevice) (a : Assignment) :
    List Finding :=
  match now.get (portKey a.pf) with
  | none => [a.finding .runtime .runtime .failed "PF port missing after the apply"]
  | some pf => verifyRuntime x a pf d

/-! ### The handoff -/

/-- Restore the VF count and the eSwitch mode from before the pass: the VFs off, the old mode, the
    old count. -/
def resetDevice : Calls (Option String) := do
  let off ← h.setNumVFs d.pf 0
  let mode ← (if d.eswitchSet then h.setEswitch d.pf d.origEswitch else pure none : Calls _)
  let on ← (if 0 < d.origNumVFs then h.setNumVFs d.pf d.origNumVFs else pure none : Calls _)
  let errs := [off.map ("sriov_numvfs 0: " ++ ·),
    mode.map (("devlink eswitch " ++ d.origEswitch ++ ": ") ++ ·),
    on.map (("sriov_numvfs " ++ toString d.origNumVFs ++ ": ") ++ ·)].filterMap id
  pure (if errs = [] then none else some ("; ".intercalate errs))

/-- The VF count and the eSwitch mode in a finding. -/
def stateText (numVFs : Int) (eswitch : String) : String :=
  "numVFs=" ++ toString numVFs ++ " eswitch=" ++ eswitch

/-- The finding on the reset of a device. -/
def handoffFinding (now : GoMap String PF) (d : RuntimeDevice) (err : Option String) : Finding :=
  let want := stateText d.origNumVFs d.origEswitch
  let got := match now.get (portKey d.lead.pf) with
    | some pf => stateText pf.numVFs pf.eswitchMode
    | none => ""
  let status := if got = want then .ok else .failed
  let f := { d.lead.finding .runtime .handoff status "" with want, got }
  match err with
  | some e => { f with status := .failed, detail := e }
  | none => f

/-- Restore every changed device that does not keep its state, then check it again. -/
def handoff (devs : List RuntimeDevice) : Calls (List Finding) := do
  let reset := devs.filter fun d => d.changed && !d.keep
  let errs ← reset.mapM (resetDevice h)
  if reset = [] then pure []
  else do
    let now ← h.discover
    pure ((reset.zip errs).map fun p => handoffFinding (byPort now) p.1 p.2)

/-! ### The pass -/

/-- Apply the runtime settings, check the result and restore the state from before.  The devices of
    an adapter with a stored firmware change wait for the reboot. -/
def runtimePass (x : MatchText) (drivers : List String) (as : List Assignment)
    (pending : Pending) : Calls (List Finding) := do
  let devs := runtimeDevices as
  let kept := deferDevices devs.1 pending
  let findings := devs.2 ++ kept.2
  if kept.1 = [] then pure findings
  else do
    let devs ← kept.1.mapM (applyDevice h drivers)
    let now ← h.discover
    let checked := devs.flatMap fun d => d.assignments.flatMap (verifyPort x (byPort now) d)
    let reset ← handoff h devs
    pure (findings ++ checked ++ reset)

/-- The runtime settings when there is no access to them. -/
def unverifiedFindings (as : List Assignment) : List Finding :=
  (as.filter fun a => hasRuntimeSettings a.runtime).map fun a =>
    a.finding .runtime .runtime .unverified "no runtime access"

/-! ### What the pass asks -/

theorem level_runtimeFinding (a : Assignment) (d : RuntimeDevice) (setting : SettingName)
    (want got : String) : (runtimeFinding a d setting want got).level = .runtime := by
  unfold runtimeFinding
  cases d.errs.get setting <;> cases d.refusal setting <;> simp only [Assignment.finding] <;>
    split_ifs <;> rfl

theorem level_verifyPort (x : MatchText) (now : GoMap String PF) (d : RuntimeDevice)
    (a : Assignment) : ∀ f ∈ verifyPort x now d a, f.level = .runtime := by
  intro f hf
  unfold verifyPort at hf
  split at hf
  · rw [mem_singleton.mp hf]
    rfl
  · rcases mem_append.mp hf with hf | hf <;> grind [level_runtimeFinding]

theorem level_conflict (as : List Assignment) :
    ∀ f ∈ (runtimeDevices as).2, f.level = .runtime := by
  induction as using List.reverseRecOn with
  | nil => exact fun f hf => by cases hf
  | append_singleton as b ih =>
    intro f hf
    rw [runtimeDevices, foldl_append, foldl_cons, addAssignment] at hf
    split at hf
    · exact ih f hf
    · split at hf
      · exact ih f hf
      · split at hf
        · aesop
        · exact ih f hf

/-- A discovery or a runtime change. -/
def Event.isRuntime : Event → Bool
  | .discover => true
  | .setNumVFs _ _ _ => true
  | .setEswitch _ _ _ => true
  | .setVF _ _ _ _ _ => true
  | _ => false

section Asks

open Booty.Lib.Logged

variable {h : Host} {I : List Event → Prop} {t : List Event}

/-- What holds of the journal keeps holding when such an event is added. -/
def Admits (I : List Event → Prop) : Prop :=
  ∀ t e, I t → e.isRuntime = true → I (t ++ [e])

variable (hI : Admits I)
include hI

theorem ask_admits {α : Type} {answer : List Event → α} {event : α → Event}
    (hevent : ∀ a, (event a).isRuntime = true) : Keeps I (ask answer event : Calls α) :=
  fun t ht => meets_ask (hI t _ ht (hevent _))

theorem setVFs_asks (d : RuntimeDevice) (n : Int) : Keeps I (setVFs h d n) :=
  (ask_admits hI fun _ => rfl).bind fun _ => keeps_pure

theorem applyEswitch_asks (d : RuntimeDevice) : Keeps I (applyEswitch h d) := by
  have hswitch : ∀ d', Keeps I (switchEswitch h d') := fun d' =>
    (ask_admits hI fun _ => rfl).bind fun _ => keeps_pure
  unfold applyEswitch
  split
  · exact keeps_pure
  · split
    · exact hswitch d
    · refine (setVFs_asks hI d 0).bind fun off => ?_
      split
      · exact hswitch off.2
      · exact keeps_pure

theorem applyCount_asks (d : RuntimeDevice) (n : Int) : Keeps I (applyCount h d n) := by
  unfold applyCount
  split
  · exact keeps_pure
  · split
    · exact (setVFs_asks hI d n).bind fun _ => keeps_pure
    · refine (setVFs_asks hI d 0).bind fun off => ?_
      split
      · exact (setVFs_asks hI off.2 n).bind fun _ => keeps_pure
      · exact keeps_pure

theorem applyVFs_asks (d : RuntimeDevice) (n : Int) : Keeps I (applyVFs h d n) := by
  refine fun t ht => meets_foldlM (fun d' t' ht' slot _ => ?_) ht
  refine (ask_admits hI (fun _ => rfl) t' ht').bind fun err t'' ht'' => ?_
  cases err <;> exact meets_pure ht''

theorem applyNumVFs_asks (d : RuntimeDevice) : Keeps I (applyNumVFs h d) := by
  unfold applyNumVFs
  split
  · exact keeps_pure
  next n hn =>
    split
    · exact keeps_pure
    · refine (applyCount_asks hI d n).bind fun d' => ?_
      split
      · exact keeps_pure
      · exact applyVFs_asks hI d' n

theorem applyDevice_asks (drivers : List String) (d : RuntimeDevice) :
    Keeps I (applyDevice h drivers d) := by
  refine Keeps.bind ?_ fun d' => applyNumVFs_asks hI d'
  split
  · exact keeps_pure
  · exact applyEswitch_asks hI _

theorem resetDevice_asks (d : RuntimeDevice) : Keeps I (resetDevice h d) := by
  refine (ask_admits hI fun _ => rfl).bind fun off => ?_
  refine Keeps.bind ?_ fun mode => ?_
  · split
    · exact ask_admits hI fun _ => rfl
    · exact keeps_pure
  refine Keeps.bind ?_ fun on => keeps_pure
  split
  · exact ask_admits hI fun _ => rfl
  · exact keeps_pure

/-- The findings of the handoff are about the runtime state. -/
theorem handoff_asks (devs : List RuntimeDevice) :
    Gives I (handoff h devs) fun fs => ∀ f ∈ fs, f.level = .runtime := by
  refine (gives_mapM (P := fun _ _ => True) fun d _ =>
    (resetDevice_asks hI d).gives fun _ => trivial).bind fun errs _ => ?_
  split
  · exact gives_pure fun f hf => (by cases hf)
  · refine ((ask_admits hI fun _ => rfl).gives fun _ => trivial).bind fun now _ => gives_pure ?_
    intro f hf
    obtain ⟨p, -, rfl⟩ := mem_map.mp hf
    cases p.2 <;> rfl

/-- **The pass** asks only for discoveries and runtime changes, and its findings are about them. -/
theorem runtimePass_asks (x : MatchText) (drivers : List String)
    (as : List Assignment) (pending : Pending) :
    Gives I (runtimePass h x drivers as pending) fun fs => ∀ f ∈ fs, f.level = .runtime := by
  have hfirst : ∀ f ∈ (runtimeDevices as).2 ++ (deferDevices (runtimeDevices as).1 pending).2,
      f.level = .runtime := by
    intro f hf
    rcases mem_append.mp hf with hf | hf
    · exact level_conflict as f hf
    · obtain ⟨d, -, hf⟩ := mem_flatMap.mp hf
      obtain ⟨a, -, rfl⟩ := mem_map.mp hf
      rfl
  unfold runtimePass
  simp only
  split
  · exact gives_pure hfirst
  · refine (gives_mapM (P := fun _ _ => True) fun d _ =>
      (applyDevice_asks hI drivers d).gives fun _ => trivial).bind fun devs _ => ?_
    refine ((ask_admits hI fun _ => rfl).gives fun _ => trivial).bind fun now _ => ?_
    refine (handoff_asks hI devs).bind fun reset hreset => gives_pure fun f hf => ?_
    rcases mem_append.mp hf with hf | hf
    · rcases mem_append.mp hf with hf | hf
      · exact hfirst f hf
      · grind [level_verifyPort]
    · exact hreset f hf

end Asks

end Booty.Sriov
