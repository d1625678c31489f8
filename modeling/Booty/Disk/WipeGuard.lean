import Booty.Disk.Tables
import Booty.Disk.Wipe

namespace Booty.Disk

open Booty.Lib Booty.Lib.Logged List Host

/-!
# Destructive commands come after an in-use check

A command that destroys data is covered when the journal before it has a check without an error of
the device, or of a disk that the device lies on: a partition makes its disk busy.

* `Site` — the host of the tools: what `lsblk` lists lies on the disk, and nothing comes into use.
* `Site.Guarded` — every destructive command of a journal is covered.
* `Site.Under` — the invariant of the operations that check first.
* `Site.Paired` — the invariant of the namespace operations, which do not check.
* `Site.guarded_run_iff` — a run is guarded exactly if no namespace that it deletes has a block
  device; if the checks also find the devices in use, it destroys none of them.
-/

/-- What a command destroys: a device, or a namespace of a controller. -/
inductive Target
  | device (path : String)
  | ns (controller nsid : String)

/-- The target of a command that destroys data.  Stopping a holder and setting or clearing a
    password do not. -/
def Cmd.destroys : Cmd → Option Target
  | .pvremove d | .zeroSuperblock d | .wipefs d | .ddZero d _ _ | .sgdiskZap d | .blkdiscard d
  | .nvmeFormat d | .hdparmErase _ d | .sgSanitize _ d | .sgFormat d => some (.device d)
  | .deleteNs c nsid => some (.ns c nsid)
  | _ => none

/-- The devices of a tree that `wipeDevice` goes through. -/
def BlockNode.wiped (n : BlockNode) : List String :=
  n.name :: (n.children.filter fun c => c.type = "part").map name

namespace Host

/-- A path leads to the device of a disk, or to a device on it. -/
def OnDisk (h : Host) (disk path : String) : Prop :=
  (∃ d, h.Names path d) ∧ ∀ d, h.Names path d → ∃ k, h.Names disk k ∧ (d = k ∨ h.Below d k)

/-- A path leads to a device in use. -/
def Used (h : Host) (t : Tables) (path : String) : Prop := ∃ d, h.Names path d ∧ h.InUse t d

end Host

/-- The host on which the tools run. -/
structure Site extends Tools where
  /-- The block device of a namespace, if it is attached. -/
  nsDevice : String → String → Option String
  /-- The tables of the kernel, after a run so far. -/
  tables : List Event → Tables
  shows : ∀ t, (host t).Shows (tables t)
  /-- What `lsblk` lists for a disk lies on it, and has done so since the run began. -/
  lists : ∀ pre t disk out root, pre <+: t → answer t (.lsblkTree disk) = .ok out →
    out.tree.bind head? = some root →
      ∀ path ∈ root.wiped, path = disk ∨ (host pre).OnDisk disk path
  /-- Nothing comes into use during a run. -/
  steady : ∀ t event path, (host (t ++ [event])).Used (tables (t ++ [event])) path →
    (host t).Used (tables t) path

namespace Site

open Tools

section

variable (env : Site) (t : List Event)

/-- `CheckNotInUse` of the disk returned nil after the run `pre`. -/
def ClearedAt (pre : List Event) (disk : String) : Prop :=
  pre ++ [.checked disk (.ok ())] <+: t ∧ (env.host pre).checkNotInUse env.fake disk = .ok ()

/-- A check of the device returned nil. -/
def Cleared (device : String) : Prop := ∃ pre, env.ClearedAt t pre device

/-- The device, or a disk that it was on at the check, is cleared. -/
def Covered : Target → Prop
  | .device d => ∃ pre disk, env.ClearedAt t pre disk ∧ (d = disk ∨ (env.host pre).OnDisk disk d)
  | .ns c nsid => ∀ d, env.nsDevice c nsid = some d → env.Cleared t d

/-- Every destructive command is covered by what precedes it. -/
def Guarded : Prop :=
  ∀ pre cmd answer post, t = pre ++ .ran cmd answer :: post →
    ∀ target, cmd.destroys = some target → env.Covered pre target

/-- The block device of a target. -/
def deviceOf : Target → Option String
  | .device d => some d
  | .ns c nsid => env.nsDevice c nsid

/-- No device in use is destroyed. -/
def Spares : Prop :=
  ∀ pre cmd answer post, t = pre ++ .ran cmd answer :: post →
    ∀ target, cmd.destroys = some target → ∀ d, env.deviceOf target = some d →
      ¬(env.host pre).Used (env.tables pre) d

/-- At each check that returns nil the tables have unbroken lines, and a device in use would be
    found under the last element of its path. -/
def Exposed : Prop :=
  ∀ pre disk, pre ++ [.checked disk (.ok ())] <+: t → (env.tables pre).Unbroken ∧
    ∀ d, (env.host pre).Names disk d → (env.host pre).InUse (env.tables pre) d →
      (env.host pre).Found (env.tables pre) ((env.host pre).blockName disk)

end

variable {env : Site} {t t₀ t1 : List Event} {cmd : Cmd}
  {answer : Except CmdError Output} {d : String}

/-! ### Journals -/

/-- A property of all splits of a journal, after one more event. -/
theorem forall_split_snoc {α : Type} {l : List α} {e : α} {P : List α → α → Prop} :
    (∀ pre x post, l ++ [e] = pre ++ x :: post → P pre x) ↔
      (∀ pre x post, l = pre ++ x :: post → P pre x) ∧ P l e := by
  constructor
  · grind
  · rintro ⟨h, he⟩ pre x post hl
    rcases post.eq_nil_or_concat with rfl | ⟨post', y, rfl⟩ <;> grind [append_inj']

/-- `Guarded` as a property of all splits. -/
theorem guarded_iff_splits : env.Guarded t ↔ ∀ pre x post, t = pre ++ x :: post →
    ∀ cmd answer, x = .ran cmd answer → ∀ target, cmd.destroys = some target →
      env.Covered pre target := by
  constructor
  · rintro h pre _ post ht cmd answer rfl
    exact h pre cmd answer post ht
  · intro h pre cmd answer post ht
    exact h pre _ post ht cmd answer rfl

/-- A command must be covered when it is run. -/
theorem guarded_ran : env.Guarded (t ++ [.ran cmd answer]) ↔
    env.Guarded t ∧ ∀ target, cmd.destroys = some target → env.Covered t target := by
  simp [guarded_iff_splits, forall_split_snoc]

/-- A check needs no cover. -/
theorem guarded_checked {outcome : Outcome CheckError Unit} :
    env.Guarded (t ++ [.checked d outcome]) ↔ env.Guarded t := by
  simp [guarded_iff_splits, forall_split_snoc]

theorem guarded_nil : env.Guarded [] := by
  intro pre cmd answer post h
  simp at h

/-- A longer journal covers more. -/
theorem ClearedAt.mono {pre : List Event} (h : env.ClearedAt t₀ pre d) (hsub : t₀ <+: t) :
    env.ClearedAt t pre d :=
  ⟨h.1.trans hsub, h.2⟩

/-- A device stays covered. -/
theorem Covered.mono {target : Target} (h : env.Covered t₀ target) (hsub : t₀ <+: t) :
    env.Covered t target := by
  cases target with
  | device d =>
    obtain ⟨pre, disk, hclear, hd⟩ := h
    exact ⟨pre, disk, hclear.mono hsub, hd⟩
  | ns c nsid =>
    intro d hd
    obtain ⟨pre, hclear⟩ := h d hd
    exact ⟨pre, hclear.mono hsub⟩

/-! ### The operations that check first -/

/-- A guarded journal without a list of namespaces, that goes on from `t₀`. -/
structure Under (env : Site) (t₀ t : List Event) : Prop where
  guarded : env.Guarded t
  unlisted : ∀ c answer, .ran (.listNs c) answer ∉ t
  sub : t₀ <+: t

theorem Under.refl (h : Under env t₀ t) : Under env t t :=
  ⟨h.guarded, h.unlisted, prefix_rfl⟩

theorem Under.weaken (h : Under env t1 t) (hsub : t₀ <+: t1) : Under env t₀ t :=
  ⟨h.guarded, h.unlisted, hsub.trans h.sub⟩

/-- A command that may run after `t₀`. -/
structure Allowed (env : Site) (t₀ : List Event) (cmd : Cmd) : Prop where
  covered : ∀ target, cmd.destroys = some target → env.Covered t₀ target
  notList : ∀ c, cmd ≠ .listNs c

/-- A command may destroy a device that is covered. -/
theorem allowed_device (h : env.Covered t₀ (.device d))
    (hd : cmd.destroys = some (.device d)) : Allowed env t₀ cmd := by
  refine ⟨fun target ht => ?_, ?_⟩
  · rw [hd] at ht
    cases ht
    exact h
  · rintro c rfl
    cases hd

/-- A command that destroys nothing may be run. -/
theorem allowed_harmless (hd : cmd.destroys = none) (hl : ∀ c, cmd ≠ .listNs c) :
    Allowed env t₀ cmd :=
  ⟨fun target ht => by simp [hd] at ht, hl⟩

/-- A checked device is covered. -/
theorem covered_cleared (h : env.Cleared t₀ d) : env.Covered t₀ (.device d) := by
  obtain ⟨pre, hclear⟩ := h
  exact ⟨pre, d, hclear, .inl rfl⟩

/-- An allowed command keeps the guard. -/
theorem Under.ran (h : Under env t₀ t) (hc : Allowed env t₀ cmd) :
    Under env t₀ (t ++ [.ran cmd answer]) where
  guarded := guarded_ran.mpr ⟨h.guarded, fun target ht => (hc.covered target ht).mono h.sub⟩
  unlisted c answer' hmem := by
    rcases mem_append.mp hmem with hmem | hmem
    · exact h.unlisted c answer' hmem
    · simp only [mem_singleton, Event.ran.injEq] at hmem
      exact hc.notList c hmem.1.symm
  sub := h.sub.trans (prefix_append _ _)

variable {I : List Event → Prop}

/-- **Command.** Its answer, and the event. -/
theorem exec_spec : (env.exec cmd).Meets t I fun a t' =>
    a = env.answer t cmd ∧ t' = t ++ [.ran cmd a] := by
  apply meets_journal_bind
  apply meets_record_bind
  exact meets_pure ⟨rfl, rfl⟩

/-- A command keeps what its event keeps. -/
theorem keeps_exec (hI : ∀ t a, I t → I (t ++ [.ran cmd a])) : (env.exec cmd).Keeps I := by
  refine fun t h => exec_spec.mono (fun _ h' => h') ?_
  rintro a _ ⟨-, rfl⟩
  exact hI t a h

/-- A command, and what follows its failure and its success. -/
theorem keeps_answer {α : Type} {f : Except CmdError Output → Steps α}
    (hexec : (env.exec cmd).Keeps I) (herr : ∀ err, (f (.error err)).Keeps I)
    (hok : ∀ out, (f (.ok out)).Keeps I) : (env.exec cmd >>= f).Keeps I := by
  refine hexec.bind fun a => ?_
  cases a with
  | error err => exact herr err
  | ok out => exact hok out

/-- An allowed command. -/
theorem exec_under (hc : Allowed env t₀ cmd) : (env.exec cmd).Keeps (Under env t₀) :=
  keeps_exec fun _ _ h => h.ran hc

/-- An allowed command whose error is ignored. -/
theorem bestEffort_under (hc : Allowed env t₀ cmd) :
    (env.bestEffort cmd).Keeps (Under env t₀) :=
  (exec_under hc).bind fun _ => keeps_pure

/-- **Check.** Without an error the device is cleared. -/
theorem checkNotInUse_under (h : Under env t₀ t) :
    (env.checkNotInUse d).Meets t (Under env t₀) fun r t' =>
      Under env t₀ t' ∧ (r = none → env.Cleared t' d) := by
  have hnext : ∀ outcome, Under env t₀ (t ++ [.checked d outcome]) := fun outcome =>
    ⟨guarded_checked.mpr h.guarded, fun c answer hmem => by
      simp only [mem_append, mem_singleton, reduceCtorEq, or_false] at hmem
      exact h.unlisted c answer hmem, h.sub.trans (prefix_append _ _)⟩
  apply meets_journal_bind
  apply meets_record_bind
  cases hok : (env.host t).checkNotInUse env.fake d with
  | ok _ =>
    exact meets_pure ⟨hnext _, fun _ => ⟨t, prefix_rfl, hok⟩⟩
  | err e => exact meets_pure ⟨hnext _, fun hr => by cases hr⟩
  | fault p => exact meets_fail (hnext _)

/-! ### The wipe -/

variable (env) in
/-- The devices of a tree, if there is one, are covered. -/
def TreeCovered (t : List Event) (root : Option BlockNode) : Prop :=
  ∀ n, root = some n → ∀ path ∈ n.wiped, env.Covered t (.device path)

/-- What `lsblk` lists for a cleared disk is covered. -/
theorem blockTree_under (hd : env.Cleared t₀ d) (h : Under env t₀ t) :
    (env.blockTree d).Meets t (Under env t₀) fun root t' => Under env t₀ t' ∧
      env.TreeCovered t' root := by
  have hran : ∀ answer, Under env t₀ (t ++ [.ran (.lsblkTree d) answer]) := fun _ =>
    h.ran (allowed_harmless rfl (by simp))
  refine exec_spec.bind ?_
  rintro a _ ⟨ha, rfl⟩
  cases a with
  | error err => exact meets_pure ⟨hran _, fun n hn => by cases hn⟩
  | ok out =>
    refine meets_pure ⟨hran _, fun n hn path hpath => ?_⟩
    obtain ⟨pre, hclear⟩ := hd
    have hpre : pre <+: t := ((prefix_append _ _).trans hclear.1).trans h.sub
    exact ⟨pre, d, hclear.mono (hran _).sub, env.lists pre t d out n hpre ha.symm hn path hpath⟩

/-- To stop a holder destroys nothing. -/
theorem stopCommand_harmless {name type : String} (h : stopCommand name type = some cmd) :
    Allowed env t₀ cmd := by
  unfold stopCommand at h
  split_ifs at h <;> cases h <;> exact allowed_harmless rfl (by simp)

/-- The holder of a device is stopped. -/
theorem stopHolder_under {name type : String} :
    (env.stopHolder name type).Keeps (Under env t₀) := by
  unfold stopHolder
  cases hstop : stopCommand name type with
  | none => exact keeps_pure
  | some cmd =>
    refine (exec_under (stopCommand_harmless hstop)).bind fun a => ?_
    cases a with
    | ok _ => exact keeps_pure
    | error _ => exact keeps_fail

mutual

/-- The holders on a device, the uppermost first. -/
theorem releaseHolder_under (env : Site) (t₀ : List Event) (n : BlockNode) :
    (env.releaseHolder n).Keeps (Under env t₀) := by
  cases n with
  | mk name type fstype size children =>
    rw [releaseHolder]
    exact (releaseHolders_under env t₀ children).bind fun _ => stopHolder_under

/-- The same for some devices. -/
theorem releaseHolders_under (env : Site) (t₀ : List Event) (l : List BlockNode) :
    (env.releaseHolders l).Keeps (Under env t₀) := by
  cases l with
  | nil =>
    rw [releaseHolders]
    exact keeps_pure
  | cons n rest =>
    rw [releaseHolders]
    exact (releaseHolder_under env t₀ n).bind fun _ =>
      releaseHolders_under env t₀ rest

end

/-- A member leaves its array or volume group. -/
theorem removeMembership_under {n : BlockNode} (hn : env.Covered t₀ (.device n.name)) :
    (env.removeMembership n).Keeps (Under env t₀) := by
  unfold removeMembership
  split_ifs
  · exact bestEffort_under (allowed_device hn rfl)
  · exact bestEffort_under (allowed_device hn rfl)
  · exact keeps_pure

/-- The ends of a covered device are cleared. -/
theorem zeroEdges_under {size : Option Int} (hd : env.Covered t₀ (.device d)) :
    (env.zeroEdges d size).Keeps (Under env t₀) :=
  keeps_forM fun _ _ => bestEffort_under (allowed_device hd rfl)

/-- A covered member is wiped. -/
theorem wipeMember_under {n : BlockNode} (hn : env.Covered t₀ (.device n.name)) :
    (env.wipeMember n).Keeps (Under env t₀) := by
  refine (removeMembership_under hn).bind fun _ => ?_
  refine (bestEffort_under (allowed_device hn rfl)).bind fun _ => ?_
  exact zeroEdges_under hn

/-- The members of a tree are wiped if all are covered. -/
theorem wipeTree_under {root : BlockNode}
    (hroot : ∀ path ∈ root.wiped, env.Covered t₀ (.device path)) :
    (env.wipeTree root).Keeps (Under env t₀) := by
  refine (releaseHolders_under env t₀ root.children).bind fun _ => ?_
  refine (keeps_forM fun n hn => ?_).bind fun _ => ?_
  · exact wipeMember_under (hroot _ (mem_cons_of_mem _ (mem_map_of_mem hn)))
  · exact removeMembership_under (hroot _ mem_cons_self)

/-- The rest of a wipe after its check. -/
theorem wipeRest_under {root : Option BlockNode} (hd : env.Cleared t₀ d) :
    (env.wipeRest d root).Keeps (Under env t₀) := by
  have hc : env.Covered t₀ (.device d) := covered_cleared hd
  unfold wipeRest
  split_ifs
  · exact keeps_pure
  · cases root with
    | none => exact bestEffort_under (allowed_device hc rfl)
    | some n => exact (zeroEdges_under hc).bind fun _ => bestEffort_under (allowed_device hc rfl)

/-- The tree of a checked disk is covered. -/
theorem wipeRoot_under (hd : env.Cleared t₀ d) (h : Under env t₀ t) :
    (env.wipeRoot d).Meets t (Under env t₀) fun root t' => Under env t₀ t' ∧
      env.TreeCovered t' root := by
  unfold wipeRoot
  split_ifs
  · exact meets_pure ⟨h, fun n hn => by cases hn⟩
  · exact blockTree_under hd h

/-- The partitions and holders of a device, where `lsblk` has answered. -/
theorem wipeTrees_under {root : Option BlockNode} (h : Under env t₀ t)
    (hroot : env.TreeCovered t root) :
    (root.forM env.wipeTree).Meets t (Under env t₀) fun _ => Under env t₀ := by
  cases root with
  | none => exact meets_pure h
  | some n =>
    -- from here on the answer of `lsblk` is part of what the journal goes on from
    have hwipe : (env.wipeTree n).Meets t (Under env t) fun _ => Under env t :=
      wipeTree_under (hroot n rfl) t h.refl
    exact hwipe.mono (fun _ h' => h'.weaken h.sub) fun _ _ h' => h'.weaken h.sub

/-- **Wipe.** A cleared device is wiped with covered commands only. -/
theorem wipeDevice_under (hd : env.Cleared t₀ d) : (env.wipeDevice d).Keeps (Under env t₀) := by
  have hc : env.Covered t₀ (.device d) := covered_cleared hd
  refine fun t h => (wipeRoot_under hd h).bind fun root _ ⟨h1, hroot⟩ => ?_
  refine (wipeTrees_under h1 hroot).bind fun _ t2 h2 => ?_
  refine ((bestEffort_under (allowed_device hc rfl)).bind fun _ => ?_) t2 h2
  exact keeps_answer (exec_under (allowed_device hc rfl)) (fun _ => keeps_fail)
    fun _ => wipeRest_under hd

/-- **After a check.** A program that needs a cleared device, run after the check of it. -/
theorem checked_under {α : Type} {f : Option CheckError → Steps α}
    (hsome : ∀ e, (f (some e)).Keeps (Under env t₀))
    (hnone : ∀ t1, env.Cleared t1 d → (f none).Keeps (Under env t1)) :
    (env.checkNotInUse d >>= f).Keeps (Under env t₀) := by
  refine fun t h => (checkNotInUse_under h).bind fun r t1 ⟨h1, hclear⟩ => ?_
  cases r with
  | some e => exact hsome e t1 h1
  | none =>
    refine (hnone t1 (hclear rfl) t1 h1.refl).mono ?_ ?_
    · exact fun _ h' => h'.weaken h1.sub
    · exact fun _ _ h' => h'.weaken h1.sub

/-- `WipeDisk` checks the disk first. -/
theorem wipeDisk_under : (env.wipeDisk d).Keeps (Under env t₀) := by
  unfold wipeDisk
  split_ifs
  · exact keeps_fail
  · exact checked_under (fun _ => keeps_fail) fun _ hd => (wipeDevice_under hd).mapError

/-- `WipeFilesystemSignatures` checks the device first. -/
theorem wipeFilesystemSignatures_under :
    (env.wipeFilesystemSignatures d).Keeps (Under env t₀) := by
  unfold wipeFilesystemSignatures
  split_ifs
  · exact keeps_fail
  · refine checked_under (fun _ => keeps_fail) fun _ hd => ?_
    exact keeps_answer (exec_under (allowed_device (covered_cleared hd) rfl)) (fun _ => keeps_fail)
      fun _ => keeps_pure

/-! ### All disks -/

section

variable {op : String → Steps Unit} {wrap : String → String → String}

section

variable (hop : ∀ dev t1, env.Cleared t1 dev → (op dev).Keeps (Under env t1))
include hop

/-- One disk of a loop over all. -/
theorem oneDisk_under {r : Tally} : (env.oneDisk op wrap r d).Keeps (Under env t₀) := by
  refine checked_under (fun e => ?_) fun t1 hd => ?_
  · cases e <;> exact keeps_pure
  · refine (hop d t1 hd).attempt.bind fun r' => ?_
    cases r' <;> exact keeps_pure

/-- The loop. -/
theorem eachDisk_under {devs : List String} {r : Tally} :
    (env.eachDisk op wrap devs r).Keeps (Under env t₀) := by
  induction devs generalizing r with
  | nil => exact keeps_pure
  | cons dev devs ih => exact (oneDisk_under hop).bind fun _ => ih

/-- An operation on all disks that checks each of them. -/
theorem allDisks_under {what : String} : (env.allDisks what op wrap).Keeps (Under env t₀) := by
  unfold allDisks
  cases env.blockNames with
  | error _ => exact keeps_fail
  | ok names =>
    refine (eachDisk_under hop).bind fun r => ?_
    unfold allDisksResult
    split_ifs
    · exact keeps_fail
    · exact keeps_fail
    · exact keeps_fail
    · exact keeps_pure

end

end

/-- `DiscardNVMeDisks`. -/
theorem discardNVMeDisks_under : env.discardNVMeDisks.Keeps (Under env t₀) := by
  unfold discardNVMeDisks
  cases env.blockNames with
  | error _ => exact keeps_pure
  | ok names =>
    refine keeps_forM fun dev _ => checked_under (fun _ => keeps_pure) fun _ hd => ?_
    exact bestEffort_under (allowed_device (covered_cleared hd) rfl)

/-! ### The secure erase -/

section

variable (hd : env.Cleared t₀ d)
include hd

/-- The erase of an NVMe disk. -/
theorem secureEraseNVMe_under : (env.secureEraseNVMe d).Keeps (Under env t₀) := by
  refine keeps_answer (exec_under (allowed_device (covered_cleared hd) rfl)) (fun _ => ?_)
    fun _ => keeps_pure
  dsimp only
  split_ifs <;> exact keeps_fail

/-- The erase of an ATA disk with a password. -/
theorem eraseATA_under {pwd : String} : (env.eraseATA pwd d).Keeps (Under env t₀) := by
  have hdisable : Allowed env t₀ (.hdparmDisable pwd d) := allowed_harmless rfl (by simp)
  refine keeps_answer (exec_under (allowed_harmless rfl (by simp))) (fun _ => keeps_fail)
    fun _ => ?_
  refine keeps_answer (exec_under (allowed_device (covered_cleared hd) rfl)) (fun _ => ?_)
    fun _ => bestEffort_under hdisable
  exact (bestEffort_under hdisable).bind fun _ => keeps_fail

/-- The erase of an ATA disk. -/
theorem secureEraseATA_under : (env.secureEraseATA d).Keeps (Under env t₀) := by
  refine keeps_answer (exec_under (allowed_harmless rfl (by simp))) (fun err => ?_)
    fun out => ?_ <;>
    dsimp only <;> split_ifs
  · exact keeps_fail
  · exact keeps_fail
  · exact keeps_fail
  · exact keeps_fail
  · refine keeps_journal_bind fun t1 => ?_
    cases env.erasePassword t1 with
    | error _ => exact keeps_fail
    | ok pwd => exact eraseATA_under hd

/-- The format of a SCSI disk. -/
theorem formatUnit_under {rejected : List String} :
    (env.formatUnit d rejected).Keeps (Under env t₀) := by
  refine keeps_answer (exec_under (allowed_device (covered_cleared hd) rfl)) (fun _ => ?_)
    fun _ => keeps_pure
  dsimp only
  split_ifs <;> exact keeps_fail

/-- The sanitize actions of a SCSI disk. -/
theorem sanitize_under {actions : List (List String)} {rejected : List String} :
    (env.sanitize d actions rejected).Keeps (Under env t₀) := by
  induction actions generalizing rejected with
  | nil => exact formatUnit_under hd
  | cons action actions ih =>
    refine keeps_answer (exec_under (allowed_device (covered_cleared hd) rfl)) (fun _ => ?_)
      fun _ => keeps_pure
    dsimp only
    split_ifs
    · exact formatUnit_under hd
    · exact keeps_fail
    · exact ih

/-- The erase by the kind of the disk. -/
theorem eraseByMedia_under : (env.eraseByMedia d).Keeps (Under env t₀) := by
  refine keeps_journal_bind fun t => ?_
  cases env.eraseMedia t d with
  | nvme => exact secureEraseNVMe_under hd
  | ata => exact secureEraseATA_under hd
  | scsi => exact sanitize_under hd
  | unknown => exact keeps_fail

/-- What is done if the erase fails. -/
theorem eraseFallback_under {err : String} :
    (env.eraseFallback d err).Keeps (Under env t₀) := by
  refine keeps_journal_bind fun t => ?_
  split_ifs
  · exact keeps_fail
  · refine (wipeDevice_under hd).attempt.bind fun r => ?_
    cases r with
    | error _ => exact keeps_fail
    | ok _ => exact keeps_pure

end

/-- **Erase.** Its own check comes first, whatever the caller has checked. -/
theorem secureErase_under : (env.secureErase d).Keeps (Under env t₀) := by
  refine checked_under (fun _ => keeps_fail) fun _ hd => ?_
  refine (eraseByMedia_under hd).attempt.bind fun r => ?_
  cases r with
  | ok _ => exact keeps_pure
  | error _ => exact eraseFallback_under hd

/-- `SecureEraseDisk` checks the disk first. -/
theorem secureEraseDisk_under : (env.secureEraseDisk d).Keeps (Under env t₀) := by
  unfold secureEraseDisk
  split_ifs
  · exact keeps_fail
  · exact keeps_journal_bind fun _ => secureErase_under

/-! ### The namespace operations -/

section

variable (env)

/-- The deletes of a list of namespaces spare every block device: none has one, up to the first
    delete that fails. -/
def SparesEach (c : String) : List Event → List String → Prop
  | _, [] => True
  | t, nsid :: nsids => env.nsDevice c nsid = none ∧
    ((env.answer t (.deleteNs c nsid)).isOk →
      SparesEach c (t ++ [.ran (.deleteNs c nsid) (env.answer t (.deleteNs c nsid))]) nsids)

/-- The deletes that follow an answer of `list-ns` spare every block device. -/
def SparesListed (c : String) (t : List Event) (answer : Except CmdError Output) : Prop :=
  ∀ out nsids, answer = .ok out → namespacesOf out = .ok nsids →
    env.SparesEach c (t ++ [.ran (.listNs c) answer]) nsids

/-- The deletes after each `list-ns` of the journal spare every block device. -/
def Spared (t : List Event) : Prop :=
  ∀ pre c answer post, t = pre ++ .ran (.listNs c) answer :: post →
    env.SparesListed c pre answer

/-- No check so far, and the journal is guarded exactly if it is spared. -/
structure Paired (t : List Event) : Prop where
  unchecked : ∀ d outcome, .checked d outcome ∉ t
  guarded_iff : env.Guarded t ↔ env.Spared t

/-- As `Paired`, with the deletes of `nsids` still to come. -/
structure Pending (c : String) (nsids : List String) (t : List Event) : Prop where
  unchecked : ∀ d outcome, .checked d outcome ∉ t
  spared_iff : env.Spared t ↔ env.Guarded t ∧ env.SparesEach c t nsids

end

variable {c : String} {nsids : List String}

/-- The condition at every list command of a run. -/
theorem spared_iff_splits : env.Spared t ↔ ∀ pre x post, t = pre ++ x :: post →
    ∀ c answer, x = .ran (.listNs c) answer → env.SparesListed c pre answer := by
  constructor
  · rintro h pre _ post ht c answer rfl
    exact h pre c answer post ht
  · intro h pre c answer post ht
    exact h pre _ post ht c answer rfl

/-- A list command must show only covered namespaces. -/
theorem spared_list : env.Spared (t ++ [.ran (.listNs c) answer]) ↔
    env.Spared t ∧ env.SparesListed c t answer := by
  simp [spared_iff_splits, forall_split_snoc]

/-- Another command does not matter. -/
theorem spared_ran (hl : ∀ c, cmd ≠ .listNs c) :
    env.Spared (t ++ [.ran cmd answer]) ↔ env.Spared t := by
  rw [spared_iff_splits, spared_iff_splits, forall_split_snoc]
  simp only [Event.ran.injEq, and_iff_left_iff_imp]
  rintro - c _ ⟨hc, -⟩
  exact absurd hc (hl c)

theorem unchecked_ran (h : ∀ d outcome, .checked d outcome ∉ t) (d : String)
    (outcome : Outcome CheckError Unit) : .checked d outcome ∉ t ++ [.ran cmd answer] := by
  simpa using h d outcome

/-- Without a check only a namespace without a block device is covered. -/
theorem covered_ns_iff (h : ∀ d outcome, .checked d outcome ∉ t) {nsid : String} :
    env.Covered t (.ns c nsid) ↔ env.nsDevice c nsid = none := by
  constructor
  · intro hcov
    by_contra hne
    obtain ⟨d, hd⟩ := Option.ne_none_iff_exists'.mp hne
    obtain ⟨pre, hpre, -⟩ := hcov d hd
    exact h d _ (hpre.subset (mem_append_right _ mem_cons_self))
  · intro hnone d hd
    rw [hnone] at hd
    cases hd

/-- A command that neither destroys nor lists keeps the pairing. -/
theorem Paired.quiet (h : env.Paired t) (hd : cmd.destroys = none)
    (hl : ∀ c, cmd ≠ .listNs c) : env.Paired (t ++ [.ran cmd answer]) where
  unchecked := unchecked_ran h.unchecked
  guarded_iff := by
    rw [guarded_ran, spared_ran hl, ← h.guarded_iff]
    simp [hd]

/-- A command that destroys and lists nothing. -/
theorem exec_paired (hd : cmd.destroys = none) (hl : ∀ c, cmd ≠ .listNs c) :
    (env.exec cmd).Keeps (env.Paired) :=
  keeps_exec fun _ _ h => h.quiet hd hl

theorem identifyController_paired : (env.identifyController c).Keeps (env.Paired) := by
  unfold identifyController
  split_ifs
  · exact keeps_fail
  · refine keeps_answer (exec_paired rfl (by simp)) (fun _ => keeps_fail) fun out => ?_
    dsimp only
    split
    · exact keeps_fail
    · exact keeps_pure

theorem supportsMultiNS_paired : (env.supportsMultiNS c).Keeps (env.Paired) := by
  refine identifyController_paired.bind fun info => ?_
  cases info "nn" with
  | none => exact keeps_pure
  | some nn =>
    dsimp only
    split
    · exact keeps_fail
    · exact keeps_pure

theorem controllerCapacity_paired : (env.controllerCapacity c).Keeps (env.Paired) := by
  refine identifyController_paired.mapError.bind fun info => ?_
  cases info "tnvmcap" with
  | none => exact keeps_fail
  | some cap =>
    dsimp only
    split
    · exact keeps_fail
    · exact keeps_pure

theorem controllerID_paired : (env.controllerID c).Keeps (env.Paired) := by
  refine identifyController_paired.mapError.bind fun info => ?_
  unfold controllerIDFromInfo
  cases info "cntlid" with
  | none => exact keeps_fail
  | some id =>
    dsimp only
    split_ifs
    · exact keeps_fail
    · exact keeps_fail
    · exact keeps_pure

theorem createNamespace_paired {blocks : Nat} {blockSize : Int} :
    (env.createNamespace c blocks blockSize).Keeps (env.Paired) := by
  unfold createNamespace
  split
  · exact keeps_fail
  · refine keeps_answer (exec_paired rfl (by simp)) (fun _ => keeps_fail) fun out => ?_
    dsimp only
    split
    · exact keeps_fail
    · exact keeps_pure

theorem attachNamespace_paired {nsid cntlid : String} :
    (env.attachNamespace c nsid cntlid).Keeps (env.Paired) := by
  unfold attachNamespace
  split_ifs
  · exact keeps_fail
  · exact keeps_fail
  · exact keeps_answer (exec_paired rfl (by simp)) (fun _ => keeps_fail) fun _ => keeps_pure

/-- **List.** The namespaces of the answer are pending. -/
theorem listNamespaces_pending (h : env.Paired t) :
    (env.listNamespaces c).Meets t (env.Paired) fun nsids =>
      env.Pending c nsids := by
  unfold listNamespaces
  split_ifs
  · exact meets_fail h
  · have hguard : ∀ answer, env.Guarded (t ++ [.ran (.listNs c) answer]) ↔
        env.Guarded t := fun answer => by
      rw [guarded_ran]
      simp [Cmd.destroys]
    -- an answer without namespaces leaves nothing to spare
    have hempty : ∀ answer, (∀ out nsids, answer = .ok out → namespacesOf out ≠ .ok nsids) →
        env.Paired (t ++ [.ran (.listNs c) answer]) := fun answer hnone =>
      ⟨unchecked_ran h.unchecked, by
        rw [hguard, spared_list, h.guarded_iff, iff_self_and]
        exact fun _ out nsids ha hn => absurd hn (hnone out nsids ha)⟩
    refine exec_spec.bind ?_
    rintro a _ ⟨-, rfl⟩
    cases a with
    | error _ => grind [meets_fail]
    | ok out =>
      dsimp only
      cases hids : namespacesOf out with
      | error _ => grind [meets_fail]
      | ok nsids =>
        refine meets_pure ⟨unchecked_ran h.unchecked, ?_⟩
        rw [hguard, spared_list, h.guarded_iff]
        refine and_congr_right fun _ => ⟨fun hs => hs out nsids rfl hids, ?_⟩
        rintro hs _ _ ⟨⟩ hn
        rw [hids] at hn
        cases hn
        exact hs

/-- **Delete.** Each delete settles one pending namespace. -/
theorem deleteNamespaces_paired (h : env.Pending c nsids t) :
    (env.deleteNamespaces c nsids).Meets t (env.Paired) fun _ => env.Paired := by
  induction nsids generalizing t with
  | nil =>
    refine meets_pure ⟨h.unchecked, ?_⟩
    rw [h.spared_iff]
    simp [SparesEach]
  | cons nsid nsids ih =>
    refine exec_spec.bind ?_
    rintro a _ ⟨ha, rfl⟩
    -- There is no check, so only a namespace without a device is covered.
    have hguard : env.Guarded (t ++ [.ran (.deleteNs c nsid) a]) ↔
        env.Guarded t ∧ env.nsDevice c nsid = none := by
      rw [guarded_ran, ← covered_ns_iff h.unchecked]
      simp [Cmd.destroys]
    have hspared : env.Spared (t ++ [.ran (.deleteNs c nsid) a]) ↔
        env.Guarded (t ++ [.ran (.deleteNs c nsid) a]) ∧
          (a.isOk → env.SparesEach c (t ++ [.ran (.deleteNs c nsid) a]) nsids) := by
      have hlist : ∀ c', Cmd.deleteNs c nsid ≠ .listNs c' := fun _ hc => by cases hc
      rw [spared_ran hlist, h.spared_iff, hguard, SparesEach, ← ha, and_assoc]
    cases a with
    -- The loop ends here, and so does what is asked of the namespaces.
    | error _ =>
      refine meets_fail ⟨unchecked_ran h.unchecked, ?_⟩
      rw [hspared]
      simp [Except.toBool]
    | ok out =>
      refine ih ⟨unchecked_ran h.unchecked, ?_⟩
      rw [hspared]
      simp [Except.toBool]

/-- The namespaces that are deleted are those of a list command. -/
theorem deleteAllNamespaces_paired : (env.deleteAllNamespaces c).Keeps (env.Paired) :=
  fun _ h => (listNamespaces_pending h).bind fun _ _ h' => deleteNamespaces_paired h'

theorem createLayout_paired {total : Nat} {cntlid : String} {ns : Namespace} :
    (env.createLayout c total cntlid ns).Keeps (env.Paired) := by
  unfold createLayout
  dsimp only
  split_ifs
  all_goals first
    | exact keeps_fail
    | exact createNamespace_paired.bind fun _ => attachNamespace_paired

/-- The layout of a controller. -/
theorem applyControllerLayout_paired {cfg : NamespaceConfig} :
    (env.applyControllerLayout cfg).Keeps (env.Paired) := by
  refine supportsMultiNS_paired.mapError.bind fun supported => ?_
  split_ifs
  · exact keeps_fail
  · refine controllerCapacity_paired.bind fun _ => controllerID_paired.bind fun _ => ?_
    refine deleteAllNamespaces_paired.mapError.bind fun _ => ?_
    exact keeps_forM fun _ _ => createLayout_paired

theorem tryAttachFallbackNamespace_paired {blocks : Nat} {cntlid : String} :
    (env.tryAttachFallbackNamespace c blocks cntlid).Keeps (env.Paired) := by
  refine createNamespace_paired.attempt.bind fun r => ?_
  cases r with
  | error _ => exact keeps_pure
  | ok nsid => exact attachNamespace_paired.attempt.bind fun _ => keeps_pure

theorem createDefault_paired {blocks : Nat} {cntlid : String} :
    (env.createDefault c blocks cntlid).Keeps (env.Paired) := by
  refine createNamespace_paired.attempt.bind fun r => ?_
  cases r with
  | error _ => exact tryAttachFallbackNamespace_paired.bind fun _ => keeps_fail
  | ok nsid => exact attachNamespace_paired.mapError

/-- The reset of a controller. -/
theorem nvmeResetNamespaces_paired : (env.nvmeResetNamespaces c).Keeps (env.Paired) := by
  unfold nvmeResetNamespaces
  split_ifs
  · exact keeps_fail
  · refine controllerCapacity_paired.mapError.bind fun _ => controllerID_paired.bind fun _ => ?_
    exact deleteAllNamespaces_paired.bind fun _ => createDefault_paired

/-! ### The result -/

theorem under_nil : Under env [] [] := ⟨guarded_nil, fun _ _ => not_mem_nil, prefix_rfl⟩

theorem paired_nil : env.Paired [] :=
  ⟨fun _ _ => not_mem_nil, iff_of_true guarded_nil fun _ _ _ _ h => by simp at h⟩

/-- An operation that checks first has no deletes. -/
theorem Under.spared (h : Under env t₀ t) : env.Spared t := fun pre c answer _ ht =>
  absurd (ht ▸ mem_append_right pre mem_cons_self) (h.unlisted c answer)

/-- What is in use was in use before. -/
theorem used_of_prefix {pre : List Event} (hpre : pre <+: t)
    (h : (env.host t).Used (env.tables t) d) : (env.host pre).Used (env.tables pre) d := by
  obtain ⟨rest, rfl⟩ := hpre
  induction rest using reverseRecOn with
  | nil => simpa using h
  | append_singleton rest event ih =>
    rw [← append_assoc] at h
    exact ih (env.steady _ event d h)

/-- **A check that finds the devices in use** clears no disk with one on it. -/
theorem ClearedAt.not_used {pre : List Event} {disk : String} (hfake : env.fake = false)
    (hexposed : env.Exposed t) (hclear : env.ClearedAt t pre disk)
    (hd : d = disk ∨ (env.host pre).OnDisk disk d) : ¬(env.host t).Used (env.tables t) d := by
  intro hused
  obtain ⟨p, hp, r, hr, hbacked, hreach⟩ :=
    used_of_prefix ((prefix_append _ _).trans hclear.1) hused
  obtain ⟨k, hk, hreach⟩ : ∃ k, (env.host pre).Names disk k ∧ (env.host pre).Reach r k := by
    obtain rfl | ⟨-, hon⟩ := hd
    · exact ⟨p, hp, hreach⟩
    · obtain ⟨k, hk, rfl | hbelow⟩ := hon p hp
      · exact ⟨p, hk, hreach⟩
      · exact ⟨k, hk, hreach.tail hbelow⟩
  obtain ⟨hunbroken, hfound⟩ := hexposed pre disk hclear.1
  have hok := hclear.2
  rw [hfake] at hok
  obtain ⟨busy, hbusy⟩ : ∃ busy, (env.host pre).busyDevices = .ok busy := by
    unfold Host.checkNotInUse at hok
    grind
  exact (checkNotInUse_ok (env.shows pre) hunbroken hbusy disk).mp hok
    (hfound k hk ⟨r, hr, hbacked, hreach⟩)

/-- **A guarded run destroys no device in use.** -/
theorem Guarded.spares (hfake : env.fake = false) (hexposed : env.Exposed t) (h : env.Guarded t) :
    env.Spares t := by
  intro pre cmd answer post ht target htarget d hd
  have hexposed' : env.Exposed pre := fun pre' disk hpre' =>
    hexposed pre' disk (hpre'.trans (ht ▸ prefix_append _ _))
  have hcov := h pre cmd answer post ht target htarget
  cases target with
  | device d' =>
    cases hd
    obtain ⟨pre', disk, hclear, hon⟩ := hcov
    exact hclear.not_used hfake hexposed' hon
  | ns c nsid =>
    obtain ⟨pre', hclear⟩ := hcov d hd
    exact hclear.not_used hfake hexposed' (.inl rfl)

end Site

/-! ### Runs on fixed hosts -/

/-- A site whose files do not change; each controller has the namespace 1, and `lsblk` fails. -/
def fixedSite (h : Host) (tables : Tables) (hshows : h.Shows tables) (names : List String)
    (nsDevice : String → String → Option String) : Site where
  answer _ cmd :=
    let info k := [("tnvmcap", "1024000"), ("cntlid", "0")].lookup k
    match cmd with
    | .lsblkTree _ => .error ⟨false, some 1, "exit status 1", ""⟩
    | .listNs _ => .ok ⟨"nsids", none, .ok [1], .ok info⟩
    | _ => .ok ⟨"created nsid:1", none, .ok [], .ok info⟩
  host _ := h
  fake := false
  blockDir := "/sys/block"
  blockNames := .ok names
  vendor _ _ := .error "no such file"
  canceled _ := false
  erasePassword _ := .ok "password"
  quote s := s
  quickWipe := false
  eraseFallbackWipe := false
  nsDevice := nsDevice
  tables _ := tables
  shows _ := hshows
  lists _ _ _ _ _ _ hanswer := by cases hanswer
  steady _ _ _ hused := hused

/-- The host with an encrypted root. -/
def stackedSite : Site :=
  fixedSite stackedHost stackedTables sampleHost_shows ["sda", "sdb"] fun _ _ => none

/-- A host whose root file system is on the only namespace of its NVMe controller. -/
def namespaceTables : Tables :=
  ⟨[sampleMount "259:0" "/" "ext4" "/dev/nvme0n1" (by decide) isAbs_slash], []⟩

/-- The host of this table. -/
def namespaceHost : Host :=
  sampleHost namespaceTables.mounts ["nvme0n1"] [("259:0", "nvme0n1")] [] [] [] (by decide)
    (by decide) (by decide) (by decide)

/-- A site on this host. -/
def namespaceSite : Site :=
  fixedSite namespaceHost namespaceTables sampleHost_shows ["nvme0n1"] fun controller nsid =>
    if controller = "/dev/nvme0" ∧ nsid = "1" then some "/dev/nvme0n1" else none

/-- The host with a disk below a directory of `/dev`. -/
def etherdSite : Site :=
  fixedSite etherdHost etherdTables sampleHost_shows ["etherd!e1.0"] fun _ _ => none

end Booty.Disk
